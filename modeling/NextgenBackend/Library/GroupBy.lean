import Mathlib

namespace GroupBy

variable {α κ : Type} [DecidableEq κ]

def merge (k : κ) (n : Int) : List (κ × Int) → List (κ × Int)
  | [] => [(k, n)]
  | entry :: entries =>
      if entry.1 = k then (k, entry.2 + n) :: entries else entry :: merge k n entries

def sums (k : α → κ) (weight : α → Int) (rows : List α) : List (κ × Int) :=
  rows.foldl (fun entries row => merge (k row) (weight row) entries) []

def total (p : κ → Bool) (entries : List (κ × Int)) : Int :=
  ((entries.filter fun entry => p entry.1).map (·.2)).sum

def quantity (entries : List (κ × Int)) (k : κ) : Int :=
  (entries.lookup k).getD 0

variable {p : κ → Bool} {k : κ} {n : Int} {entries : List (κ × Int)}

omit [DecidableEq κ] in
@[simp]
theorem total_nil : total p [] = 0 := rfl

omit [DecidableEq κ] in
theorem total_cons {entry : κ × Int} :
    total p (entry :: entries) = (if p entry.1 then entry.2 else 0) + total p entries := by
  unfold total
  cases h : p entry.1 <;> simp [h]

theorem total_merge : total p (merge k n entries) = total p entries + if p k then n else 0 := by
  induction entries with
  | nil => simp [merge, total_cons]
  | cons entry entries ih =>
      unfold merge
      split
      next h =>
        subst h
        simp only [total_cons]
        split <;> omega
      next h =>
        simp only [total_cons, ih]
        omega

theorem total_foldl (f : α → κ) (weight : α → Int) (rows : List α) :
    total p (rows.foldl (fun entries row => merge (f row) (weight row) entries) entries) =
      total p entries + ((rows.filter fun row => p (f row)).map weight).sum := by
  induction rows generalizing entries with
  | nil => simp
  | cons row rows ih =>
      simp only [List.foldl_cons, ih, total_merge]
      cases h : p (f row) with
      | true => simp [h]; omega
      | false => simp [h]

theorem total_sums (f : α → κ) (weight : α → Int) (rows : List α) :
    total p (sums f weight rows) = ((rows.filter fun row => p (f row)).map weight).sum := by
  unfold sums
  rw [total_foldl, total_nil, zero_add]

theorem keys_merge : (merge k n entries).map (·.1) =
    if k ∈ entries.map (·.1) then entries.map (·.1) else entries.map (·.1) ++ [k] := by
  induction entries with
  | nil => simp [merge]
  | cons entry entries ih =>
      unfold merge
      split
      next h => simp [h]
      next h =>
        have hne : k ≠ entry.1 := fun heq => h heq.symm
        simp only [List.map_cons, ih, List.mem_cons, hne, false_or]
        split <;> rfl

theorem nodup_merge (h : (entries.map (·.1)).Nodup) : ((merge k n entries).map (·.1)).Nodup := by
  rw [keys_merge]
  split
  · exact h
  next hnot =>
    rw [List.nodup_append]
    refine ⟨h, List.nodup_singleton k, ?_⟩
    intro a ha b hb
    simp only [List.mem_singleton] at hb
    intro heq
    exact hnot (hb ▸ heq ▸ ha)

theorem nodup_sums (f : α → κ) (weight : α → Int) (rows : List α) :
    ((sums f weight rows).map (·.1)).Nodup := by
  have h : ∀ entries : List (κ × Int), (entries.map (·.1)).Nodup →
      ((rows.foldl (fun entries row => merge (f row) (weight row) entries) entries).map
        (·.1)).Nodup := by
    induction rows with
    | nil => exact fun _ h => h
    | cons row rows ih => exact fun entries h => ih _ (nodup_merge h)
  exact h [] List.nodup_nil

theorem total_eq_zero (h : k ∉ entries.map (·.1)) : total (fun j => j = k) entries = 0 := by
  induction entries with
  | nil => rfl
  | cons entry entries ih =>
      simp only [List.map_cons, List.mem_cons, not_or] at h
      have hne : ¬ entry.1 = k := fun heq => h.1 heq.symm
      simp [total_cons, hne, ih h.2]

theorem quantity_eq_total (h : (entries.map (·.1)).Nodup) :
    quantity entries k = total (fun j => j = k) entries := by
  unfold quantity
  induction entries with
  | nil => rfl
  | cons entry entries ih =>
      obtain ⟨hnot, hnodup⟩ := List.nodup_cons.mp h
      rw [total_cons]
      rcases eq_or_ne entry.1 k with heq | hne
      · subst heq
        have hrest := total_eq_zero hnot
        simp [List.lookup, hrest]
      · have hlookup : List.lookup k (entry :: entries) = entries.lookup k := by
          have hkey : (k == entry.1) = false := by simpa using hne.symm
          simp [List.lookup, hkey]
        simp [hlookup, ih hnodup, hne]

-- A sum over rows is the sum of what each key's rows come to.
theorem sum_by_key {K : Finset κ} {rows : List α} (f : α → κ) (weight : α → Int)
    (hK : ∀ row ∈ rows, f row ∈ K) :
    ∑ k ∈ K, ((rows.filter fun row => f row = k).map weight).sum = (rows.map weight).sum := by
  induction rows with
  | nil => simp
  | cons row rows ih =>
      rw [List.forall_mem_cons] at hK
      have hsplit (k : κ) : (((row :: rows).filter fun row => f row = k).map weight).sum =
          (if f row = k then weight row else 0) +
            ((rows.filter fun row => f row = k).map weight).sum := by
        by_cases h : f row = k
        · simp [h]
        · simp [h]
      simp only [hsplit, Finset.sum_add_distrib, ih hK.2, Finset.sum_ite_eq, hK.1, if_true,
        List.map_cons, List.sum_cons]

theorem sum_entries {K : Finset κ} (f : κ → Int → Int) (hf : ∀ k, f k 0 = 0)
    (hkeys : (entries.map (·.1)).Nodup) (hK : ∀ entry ∈ entries, entry.1 ∈ K) :
    ∑ k ∈ K, f k (total (fun j => j = k) entries) =
      (entries.map fun entry => f entry.1 entry.2).sum := by
  induction entries with
  | nil => simp [hf]
  | cons entry entries ih =>
      rw [List.forall_mem_cons] at hK
      obtain ⟨hnot, hnodup⟩ := List.nodup_cons.mp hkeys
      have hsplit (k : κ) : f k (total (fun j => j = k) (entry :: entries)) =
          (if entry.1 = k then f entry.1 entry.2 else 0) +
            f k (total (fun j => j = k) entries) := by
        rw [total_cons]
        by_cases h : entry.1 = k
        · subst h
          simp [total_eq_zero hnot, hf]
        · simp [h]
      simp only [hsplit, Finset.sum_add_distrib, ih hnodup hK.2, Finset.sum_ite_eq, hK.1, if_true,
        List.map_cons, List.sum_cons]

theorem quantity_sums (f : α → κ) (weight : α → Int) (rows : List α) :
    quantity (sums f weight rows) k = ((rows.filter fun row => f row = k).map weight).sum := by
  rw [quantity_eq_total (nodup_sums f weight rows), total_sums]

theorem mem_of_quantity (h : quantity entries k = n) (hn : n ≠ 0) : (k, n) ∈ entries := by
  unfold quantity at h
  cases hlookup : entries.lookup k with
  | none =>
      rw [hlookup] at h
      exact absurd h.symm hn
  | some m =>
      rw [hlookup] at h
      obtain ⟨before, after, rfl, -⟩ := List.lookup_eq_some_iff.mp hlookup
      obtain rfl : m = n := h
      simp

theorem nonneg_merge (hn : 0 ≤ n) (h : ∀ entry ∈ entries, 0 ≤ entry.2) :
    ∀ entry ∈ merge k n entries, 0 ≤ entry.2 := by
  induction entries with
  | nil => simpa [merge] using hn
  | cons entry entries ih =>
      rw [List.forall_mem_cons] at h
      unfold merge
      split
      · exact List.forall_mem_cons.mpr ⟨add_nonneg h.1 hn, h.2⟩
      · exact List.forall_mem_cons.mpr ⟨h.1, ih h.2⟩

theorem nonneg_sums (f : α → κ) (weight : α → Int) {rows : List α}
    (h : ∀ row ∈ rows, 0 ≤ weight row) : ∀ entry ∈ sums f weight rows, 0 ≤ entry.2 := by
  have hfold : ∀ entries : List (κ × Int), (∀ entry ∈ entries, 0 ≤ entry.2) →
      ∀ entry ∈ rows.foldl (fun entries row => merge (f row) (weight row) entries) entries,
        0 ≤ entry.2 := by
    induction rows with
    | nil => exact fun _ hentries => hentries
    | cons row rows ih =>
        rw [List.forall_mem_cons] at h
        exact fun entries hentries => ih h.2 _ (nonneg_merge h.1 hentries)
  exact hfold [] (by simp)

theorem mem_iff_quantity (hkeys : (entries.map (·.1)).Nodup)
    (hne : ∀ entry ∈ entries, entry.2 ≠ 0) (hn : n ≠ 0) :
    (k, n) ∈ entries ↔ quantity entries k = n := by
  unfold quantity
  induction entries with
  | nil => simpa using hn.symm
  | cons entry entries ih =>
      obtain ⟨hnot, hnodup⟩ := List.nodup_cons.mp hkeys
      rw [List.forall_mem_cons] at hne
      obtain ⟨j, m⟩ := entry
      rcases eq_or_ne k j with rfl | hkj
      · have hnone : (k, n) ∉ entries := fun h => hnot (List.mem_map_of_mem (f := (·.1)) h)
        simp [List.lookup, hnone, eq_comm]
      · have hkey : (k == j) = false := by simpa using hkj
        simp [List.lookup, hkey, hkj, ih hnodup hne.2]

theorem perm_of_quantity {entries' : List (κ × Int)} (hkeys : (entries.map (·.1)).Nodup)
    (hkeys' : (entries'.map (·.1)).Nodup) (hne : ∀ entry ∈ entries, entry.2 ≠ 0)
    (hne' : ∀ entry ∈ entries', entry.2 ≠ 0)
    (h : ∀ k, quantity entries k = quantity entries' k) : entries.Perm entries' := by
  rw [List.perm_ext_iff_of_nodup hkeys.of_map hkeys'.of_map]
  rintro ⟨k, n⟩
  by_cases hn : n = 0
  · subst hn
    exact ⟨fun hmem => absurd rfl (hne _ hmem), fun hmem => absurd rfl (hne' _ hmem)⟩
  · rw [mem_iff_quantity hkeys hne hn, mem_iff_quantity hkeys' hne' hn, h k]

end GroupBy
