import Mathlib

namespace Keyset

variable {α κ : Type} [LinearOrder κ] (key : α → κ)

-- The rows below a key, the greatest key first; no bound stands for the first page.
def below (bound : WithTop κ) (rows : List α) : List α :=
  (rows.filter fun a => (key a : WithTop κ) < bound).mergeSort fun a b => key b ≤ key a

def page (limit : ℕ) (bound : WithTop κ) (rows : List α) : List α :=
  (below key bound rows).take limit

-- One row more than the page holds tells that there is a next one.
def hasMore (limit : ℕ) (bound : WithTop κ) (rows : List α) : Bool :=
  limit < (below key bound rows).length

-- Each page is read from the rows as they stand then, below the last key of the page before.
def follow (limit : ℕ) (tables : ℕ → List α) : ℕ → ℕ → WithTop κ → Option (List (List α))
  | 0, _, _ => none
  | fuel + 1, k, bound =>
      let rows := page key limit bound (tables k)
      if hasMore key limit bound (tables k) then
        (follow limit tables fuel (k + 1) ((rows.getLast?.map key).elim ⊤ (↑))).map (rows :: ·)
      else some [rows]

-- The keys of the rows stand in falling order.
def Descending (rows : List α) : Prop := rows.Pairwise fun a b => key b < key a

variable {key} {limit : ℕ} {bound : WithTop κ} {rows : List α} {a : α}

theorem mem_below : a ∈ below key bound rows ↔ a ∈ rows ∧ (key a : WithTop κ) < bound := by
  rw [below, List.mem_mergeSort, List.mem_filter, decide_eq_true_eq]

theorem descending_below (h : rows.Pairwise fun a b => key a ≠ key b) :
    Descending key (below key bound rows) := by
  have hsorted : (below key bound rows).Pairwise fun a b => key b ≤ key a := by
    refine (List.pairwise_mergeSort ?_ ?_ _).imp of_decide_eq_true
    · intro a b c hab hbc
      exact decide_eq_true (le_trans (of_decide_eq_true hbc) (of_decide_eq_true hab))
    · intro a b
      rw [Bool.or_eq_true, decide_eq_true_eq, decide_eq_true_eq]
      exact le_total (key b) (key a)
  have hne : (below key bound rows).Pairwise fun a b => key a ≠ key b :=
    (List.mergeSort_perm _ _).symm.pairwise (h.filter _) fun hab => hab.symm
  exact hsorted.imp₂ (fun _ _ hle hne => lt_of_le_of_ne hle hne.symm) hne

-- A page that is not the last one ends with a row that parts its rows from those that follow.
theorem exists_last (hlimit : 0 < limit)
    (hdescending : Descending key (below key bound rows))
    (h : hasMore key limit bound rows = true) :
    ∃ last, (page key limit bound rows).getLast? = some last ∧ last ∈ rows ∧
      (key last : WithTop κ) < bound ∧ (∀ a ∈ page key limit bound rows, key last ≤ key a) ∧
      ∀ a ∈ rows, (key a : WithTop κ) < bound →
        a ∈ page key limit bound rows ∨ key a < key last := by
  have hmore : limit < (below key bound rows).length := of_decide_eq_true h
  have hlength : (page key limit bound rows).length = limit := by
    rw [page, List.length_take, min_eq_left hmore.le]
  have hne : page key limit bound rows ≠ [] := List.ne_nil_of_length_pos (by omega)
  have hpage := List.dropLast_append_getLast hne
  have hsplit : page key limit bound rows ++ (below key bound rows).drop limit =
      below key bound rows := List.take_append_drop limit _
  rw [Descending, ← hsplit, List.pairwise_append] at hdescending
  obtain ⟨hrows, -, hrest⟩ := hdescending
  have hlast := List.getLast_mem hne
  obtain ⟨hmem, hbound⟩ := mem_below.mp (List.mem_of_mem_take hlast)
  refine ⟨_, List.getLast?_eq_some_getLast hne, hmem, hbound, fun a ha => ?_, fun a ha habove => ?_⟩
  · rw [← hpage, List.pairwise_append] at hrows
    rw [← hpage] at ha
    rcases List.mem_append.mp ha with ha | ha
    · exact (hrows.2.2 a ha _ (List.mem_singleton_self _)).le
    · rw [List.mem_singleton.mp ha]
  · have hall := mem_below.mpr ⟨ha, habove⟩
    rw [← hsplit] at hall
    exact (List.mem_append.mp hall).imp id fun ha => hrest _ hlast a ha

theorem follow_succ {tables : ℕ → List α} {fuel k : ℕ} {pages : List (List α)}
    (h : follow key limit tables fuel k bound = some pages) :
    follow key limit tables (fuel + 1) k bound = some pages := by
  induction fuel generalizing k bound pages with
  | zero => cases h
  | succ fuel ih =>
      rw [follow] at h ⊢
      split at h
      next hmore =>
        obtain ⟨rest, hrest, rfl⟩ := Option.map_eq_some_iff.mp h
        rw [if_pos hmore, ih hrest]
        rfl
      next hmore =>
        rw [if_neg hmore]
        exact h

theorem follow_mono {tables : ℕ → List α} {fuel more k : ℕ} {pages : List (List α)}
    (h : follow key limit tables fuel k bound = some pages) (hle : fuel ≤ more) :
    follow key limit tables more k bound = some pages := by
  induction hle with
  | refl => exact h
  | step _ ih => exact follow_succ ih

section Complete

variable [WellFoundedLT κ] {tables : ℕ → List α} {start : List α}

-- The pages from a bound on: rows of the tables below it in falling order, and all that stay.
structure Complete (key : α → κ) (tables : ℕ → List α) (start : List α) (bound : WithTop κ)
    (pages : List (List α)) : Prop where
  descending : Descending key pages.flatten
  below : ∀ a ∈ pages.flatten, (key a : WithTop κ) < bound
  stored : ∀ a ∈ pages.flatten, ∃ k, a ∈ tables k
  all : ∀ a ∈ start, (key a : WithTop κ) < bound → a ∈ pages.flatten

theorem exists_follow (hlimit : 0 < limit)
    (hkeys : ∀ k, (tables k).Pairwise fun a b => key a ≠ key b)
    (hkept : ∀ k, ∀ a ∈ start, a ∈ tables k) (bound : WithTop κ) (k : ℕ) :
    ∃ fuel pages, follow key limit tables fuel k bound = some pages ∧
      Complete key tables start bound pages := by
  induction bound using WellFoundedLT.induction generalizing k with
  | ind bound ih =>
    have hdescending : Descending key (below key bound (tables k)) := descending_below (hkeys k)
    cases hmore : hasMore key limit bound (tables k) with
    | false =>
        have hshort : page key limit bound (tables k) = below key bound (tables k) :=
          List.take_of_length_le (not_lt.mp (of_decide_eq_false hmore))
        refine ⟨1, [page key limit bound (tables k)], ?_, ?_⟩
        · rw [follow, hmore]
          rfl
        · rw [hshort]
          refine ⟨by simpa using hdescending, fun a ha => ?_, fun a ha => ?_, fun a ha hlt => ?_⟩
          · exact (mem_below.mp (by simpa using ha)).2
          · exact ⟨k, (mem_below.mp (by simpa using ha)).1⟩
          · simpa using mem_below.mpr ⟨hkept k a ha, hlt⟩
    | true =>
        obtain ⟨last, hlast, -, hbound, hleast, hrest⟩ := exists_last hlimit hdescending hmore
        obtain ⟨fuel, pages, hpages, hcomplete⟩ := ih (key last) hbound (k + 1)
        refine ⟨fuel + 1, page key limit bound (tables k) :: pages, ?_, ?_⟩
        · rw [follow, hmore, if_pos rfl, hlast, Option.map_some, Option.elim_some, hpages]
          rfl
        · have hlower {a b : α} (ha : a ∈ page key limit bound (tables k))
              (hb : b ∈ pages.flatten) : key b < key a :=
            lt_of_lt_of_le (WithTop.coe_lt_coe.mp (hcomplete.below b hb)) (hleast a ha)
          have hpage {a : α} (ha : a ∈ page key limit bound (tables k)) :=
            mem_below.mp (List.mem_of_mem_take ha)
          refine ⟨?_, fun a ha => ?_, fun a ha => ?_, fun a ha hlt => ?_⟩
          · exact List.pairwise_append.mpr ⟨hdescending.sublist (List.take_sublist _ _),
              hcomplete.descending, fun a ha b hb => hlower ha hb⟩
          · rcases List.mem_append.mp ha with ha | ha
            · exact (hpage ha).2
            · exact (hcomplete.below a ha).trans hbound
          · rcases List.mem_append.mp ha with ha | ha
            · exact ⟨k, (hpage ha).1⟩
            · exact hcomplete.stored a ha
          · rw [List.flatten_cons, List.mem_append]
            exact (hrest a (hkept k a ha) hlt).imp id fun hlower =>
              hcomplete.all a ha (WithTop.coe_lt_coe.mpr hlower)

end Complete

end Keyset
