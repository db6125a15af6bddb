import Mathlib

namespace Paging

variable {β γ : Type}

-- A block to be placed, and the one repeated above it where it opens a page.
structure Entry (β : Type) where
  heading : Option β
  block : β

structure Sheets (β : Type) where
  pages : List (List β)
  current : List β
  used : Int

def Entry.opening (entry : Entry β) : List β := entry.heading.toList ++ [entry.block]

variable (limit : Int) (weight : β → Nat)

def Full (sheets : Sheets β) (entry : Entry β) : Prop :=
  sheets.current ≠ [] ∧ limit < sheets.used + weight entry.block

instance (sheets : Sheets β) (entry : Entry β) : Decidable (Full limit weight sheets entry) :=
  inferInstanceAs (Decidable (¬_ ∧ _))

def place (sheets : Sheets β) (entry : Entry β) : Sheets β :=
  if Full limit weight sheets entry then
    ⟨sheets.pages ++ [sheets.current], entry.opening, (entry.opening.map weight).sum⟩
  else ⟨sheets.pages, sheets.current ++ [entry.block], sheets.used + weight entry.block⟩

def Sheets.close (sheets : Sheets β) : List (List β) := sheets.pages ++ [sheets.current]

def layout (first : Sheets β) (entries : List (Entry β)) : List (List β) :=
  (entries.foldl (place limit weight) first).close

variable {limit weight} {sheets : Sheets β} {entry : Entry β} {entries : List (Entry β)}

theorem place_full (h : Full limit weight sheets entry) : place limit weight sheets entry =
    ⟨sheets.pages ++ [sheets.current], entry.opening, (entry.opening.map weight).sum⟩ :=
  if_pos h

theorem place_room (h : ¬Full limit weight sheets entry) : place limit weight sheets entry =
    ⟨sheets.pages, sheets.current ++ [entry.block], sheets.used + weight entry.block⟩ :=
  if_neg h

theorem filterMap_place {f : β → Option γ} (hheading : ∀ b ∈ entry.heading, f b = none) :
    (place limit weight sheets entry).close.flatten.filterMap f =
      sheets.close.flatten.filterMap f ++ [entry.block].filterMap f := by
  have hopening : entry.opening.filterMap f = [entry.block].filterMap f := by
    unfold Entry.opening
    cases hentry : entry.heading with
    | none => simp
    | some heading => simp [List.filterMap_cons, hheading heading hentry]
  by_cases h : Full limit weight sheets entry
  · rw [place_full h]
    simp [Sheets.close, hopening]
  · rw [place_room h]
    simp [Sheets.close]

theorem filterMap_layout {f : β → Option γ}
    (hheading : ∀ entry ∈ entries, ∀ b ∈ entry.heading, f b = none) :
    (layout limit weight sheets entries).flatten.filterMap f =
      sheets.close.flatten.filterMap f ++ (entries.map (·.block)).filterMap f := by
  unfold layout
  induction entries generalizing sheets with
  | nil => simp
  | cons entry entries ih =>
      rw [List.foldl_cons, ih fun e he => hheading e (List.mem_cons_of_mem _ he),
        filterMap_place (hheading entry List.mem_cons_self), List.append_assoc,
        ← List.filterMap_append]
      rfl

section Fits

variable {size : List β → Nat} (hnil : size [] = 0)
  (hgrow : ∀ blocks b, size (blocks ++ [b]) ≤ size blocks + weight b)

-- The counter covers what is on the page, and neither the page nor a closed one is over the limit.
structure Fits (limit : Int) (size : List β → Nat) (sheets : Sheets β) : Prop where
  started : sheets.current ≠ []
  closed : ∀ page ∈ sheets.pages, size page ≤ limit
  current : size sheets.current ≤ limit
  counted : size sheets.current ≤ sheets.used

include hnil hgrow

theorem size_le_weight (blocks : List β) : size blocks ≤ (blocks.map weight).sum := by
  induction blocks using List.reverseRecOn with
  | nil => simp [hnil]
  | append_singleton blocks b ih =>
      have h := hgrow blocks b
      simp only [List.map_append, List.map_cons, List.map_nil, List.sum_append, List.sum_cons,
        List.sum_nil]
      omega

theorem place_fits (hopening : size entry.opening ≤ limit) (h : Fits limit size sheets) :
    Fits limit size (place limit weight sheets entry) := by
  have hcounted := h.counted
  have hblock := hgrow sheets.current entry.block
  by_cases hfull : Full limit weight sheets entry
  · rw [place_full hfull]
    refine ⟨by simp [Entry.opening], fun page hpage => ?_, hopening, ?_⟩
    · rcases List.mem_append.mp hpage with hpage | hpage
      · exact h.closed page hpage
      · rw [List.mem_singleton.mp hpage]
        exact h.current
    · exact Int.ofNat_le.mpr (size_le_weight hnil hgrow _)
  · rw [place_room hfull]
    have hlimit : ¬limit < sheets.used + weight entry.block := fun hlt => hfull ⟨h.started, hlt⟩
    refine ⟨by simp, h.closed, ?_, ?_⟩
    · show (size (sheets.current ++ [entry.block]) : Int) ≤ limit
      omega
    · show (size (sheets.current ++ [entry.block]) : Int) ≤ sheets.used + weight entry.block
      omega

theorem layout_fits (hopening : ∀ entry ∈ entries, size entry.opening ≤ limit)
    (h : Fits limit size sheets) :
    ∀ page ∈ layout limit weight sheets entries, size page ≤ limit := by
  unfold layout
  induction entries generalizing sheets with
  | nil =>
      intro page hpage
      rcases List.mem_append.mp hpage with hpage | hpage
      · exact h.closed page hpage
      · rw [List.mem_singleton.mp hpage]
        exact h.current
  | cons entry entries ih =>
      exact ih (fun e he => hopening e (List.mem_cons_of_mem _ he))
        (place_fits hnil hgrow (hopening entry List.mem_cons_self) h)

end Fits

end Paging
