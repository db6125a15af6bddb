import Mathlib

-- A dictionary that remembers the order in which its keys came.
structure Dict (κ ν : Type) where
  entries : List (κ × ν)
  nodup : (entries.map (·.1)).Nodup

namespace Dict

variable {κ ν : Type}

def empty : Dict κ ν := ⟨[], List.nodup_nil⟩

instance : Inhabited (Dict κ ν) := ⟨empty⟩

def keys (d : Dict κ ν) : List κ := d.entries.map (·.1)

def values (d : Dict κ ν) : List ν := d.entries.map (·.2)

variable [DecidableEq κ]

instance [DecidableEq ν] : DecidableEq (Dict κ ν) := fun d d' =>
  decidable_of_iff (d.entries = d'.entries) ⟨fun h => by cases d; cases d'; simp_all,
    congrArg entries⟩

def lookup (d : Dict κ ν) (k : κ) : Option ν := d.entries.lookup k

def setEntry (k : κ) (v : ν) : List (κ × ν) → List (κ × ν)
  | [] => [(k, v)]
  | entry :: entries =>
      if entry.1 = k then (k, v) :: entries else entry :: setEntry k v entries

theorem keys_setEntry {k : κ} {v : ν} {entries : List (κ × ν)} :
    (setEntry k v entries).map (·.1) =
      if k ∈ entries.map (·.1) then entries.map (·.1) else entries.map (·.1) ++ [k] := by
  induction entries with
  | nil => simp [setEntry]
  | cons entry entries ih =>
      unfold setEntry
      split
      next h => simp [h]
      next h =>
        have hne : k ≠ entry.1 := fun heq => h heq.symm
        simp only [List.map_cons, ih, List.mem_cons, hne, false_or]
        split <;> rfl

theorem nodup_setEntry {k : κ} {v : ν} {entries : List (κ × ν)}
    (h : (entries.map (·.1)).Nodup) : ((setEntry k v entries).map (·.1)).Nodup := by
  rw [keys_setEntry]
  split
  · exact h
  next hnot => simpa using List.nodup_append_comm.mp (List.nodup_cons.mpr ⟨hnot, h⟩)

-- An entry that is there keeps its place, a new one comes last.
def set (d : Dict κ ν) (k : κ) (v : ν) : Dict κ ν :=
  ⟨setEntry k v d.entries, nodup_setEntry d.nodup⟩

def erase (d : Dict κ ν) (k : κ) : Dict κ ν :=
  ⟨d.entries.filter (·.1 ≠ k), d.nodup.sublist (List.filter_sublist.map _)⟩

variable {d : Dict κ ν} {k j : κ} {v : ν}

@[simp]
theorem lookup_empty : (empty : Dict κ ν).lookup k = none := rfl

theorem lookup_setEntry {entries : List (κ × ν)} :
    (setEntry k v entries).lookup j = if j = k then some v else entries.lookup j := by
  induction entries with
  | nil =>
      rcases eq_or_ne j k with rfl | hne
      · simp [setEntry]
      · have hkey : (j == k) = false := by simpa using hne
        simp [setEntry, List.lookup, hkey, hne]
  | cons entry entries ih =>
      obtain ⟨i, w⟩ := entry
      unfold setEntry
      rcases eq_or_ne i k with rfl | hik
      · rcases eq_or_ne j i with rfl | hne
        · simp
        · have hkey : (j == i) = false := by simpa using hne
          simp [List.lookup, hkey, hne]
      · rcases eq_or_ne j i with rfl | hne
        · simp [hik]
        · have hkey : (j == i) = false := by simpa using hne
          simp [List.lookup, hkey, hik, ih]

@[simp]
theorem lookup_set : (d.set k v).lookup j = if j = k then some v else d.lookup j :=
  lookup_setEntry

theorem mem_entries_iff : (k, v) ∈ d.entries ↔ d.lookup k = some v := by
  obtain ⟨entries, hnodup⟩ := d
  change _ ↔ entries.lookup k = some v
  induction entries with
  | nil => simp
  | cons entry entries ih =>
      obtain ⟨j, w⟩ := entry
      obtain ⟨hnot, hnodup⟩ := List.nodup_cons.mp hnodup
      rcases eq_or_ne k j with rfl | hne
      · have habsent : (k, v) ∉ entries := fun h => hnot (List.mem_map_of_mem (f := (·.1)) h)
        simp [List.lookup, habsent, eq_comm]
      · have hkey : (k == j) = false := by simpa using hne
        simp [List.lookup, hkey, hne, ih hnodup]

theorem lookup_of_perm {d d' : Dict κ ν} (h : d.entries.Perm d'.entries) (k : κ) :
    d.lookup k = d'.lookup k :=
  Option.ext fun v => by
    rw [← mem_entries_iff, ← mem_entries_iff]
    exact h.mem_iff

theorem mem_values_iff : v ∈ d.values ↔ ∃ k, d.lookup k = some v := by
  simp only [← mem_entries_iff, values, List.mem_map, Prod.exists, exists_eq_right]

section Rows

variable {α : Type} {rows : ν → List α} {added : List α}

theorem flatMap_setEntry {entries : List (κ × ν)}
    (hrows : rows v = ((entries.lookup k).elim [] rows) ++ added) :
    (((setEntry k v entries).map (·.2)).flatMap rows).Perm
      (((entries.map (·.2)).flatMap rows) ++ added) := by
  induction entries with
  | nil => simp_all [setEntry]
  | cons entry entries ih =>
      obtain ⟨j, w⟩ := entry
      unfold setEntry
      rcases eq_or_ne j k with rfl | hne
      · have hv : rows v = rows w ++ added := by simpa using hrows
        simp only [if_true, List.map_cons, List.flatMap_cons, hv, List.append_assoc]
        exact List.perm_append_comm.append_left _
      · have hkey : (k == j) = false := by simpa using hne.symm
        simp only [hne, if_false, List.map_cons, List.flatMap_cons, List.append_assoc]
        exact (ih (by simpa [List.lookup, hkey] using hrows)).append_left _

-- What the values hold together grows by what the changed value gained.
theorem flatMap_set (hrows : rows v = ((d.lookup k).elim [] rows) ++ added) :
    ((d.set k v).values.flatMap rows).Perm (d.values.flatMap rows ++ added) :=
  flatMap_setEntry hrows

end Rows

-- Dictionaries that agree key by key hold the same values, in some order.
theorem values_perm {β : Type} {read : ν → β} {d d' : Dict κ ν}
    (h : ∀ k, (d.lookup k).map read = (d'.lookup k).map read) :
    (d.values.map read).Perm (d'.values.map read) := by
  have hnodup (d : Dict κ ν) : (d.entries.map fun e => (e.1, read e.2)).Nodup :=
    List.Nodup.of_map (·.1) (by simpa [Function.comp_def] using d.nodup)
  have hmem (d : Dict κ ν) (k : κ) (b : β) :
      (k, b) ∈ d.entries.map (fun e => (e.1, read e.2)) ↔ (d.lookup k).map read = some b := by
    simp only [List.mem_map, Prod.exists, Prod.mk.injEq, mem_entries_iff,
      Option.map_eq_some_iff]
    constructor
    · rintro ⟨_, v, hv, rfl, hb⟩
      exact ⟨v, hv, hb⟩
    · rintro ⟨v, hv, hb⟩
      exact ⟨k, v, hv, rfl, hb⟩
  have hentries : (d.entries.map fun e => (e.1, read e.2)).Perm
      (d'.entries.map fun e => (e.1, read e.2)) := by
    rw [List.perm_ext_iff_of_nodup (hnodup d) (hnodup d')]
    rintro ⟨k, b⟩
    rw [hmem, hmem, h]
  simpa [values, Function.comp_def] using hentries.map (·.2)

section Tally

variable [AddCommMonoid ν] {rows : List (κ × ν)}

def add (d : Dict κ ν) (k : κ) (v : ν) : Dict κ ν := d.set k ((d.lookup k).getD 0 + v)

-- The running totals of the rows, added to what is there.
def tally (d : Dict κ ν) (rows : List (κ × ν)) : Dict κ ν :=
  rows.foldl (fun d row => d.add row.1 row.2) d

theorem sum_setEntry {entries : List (κ × ν)} :
    ((setEntry k ((entries.lookup k).getD 0 + v) entries).map (·.2)).sum =
      (entries.map (·.2)).sum + v := by
  induction entries with
  | nil => simp [setEntry]
  | cons entry entries ih =>
      obtain ⟨j, w⟩ := entry
      unfold setEntry
      rcases eq_or_ne j k with rfl | hne
      · simp [add_right_comm]
      · have hkey : (k == j) = false := by simpa using hne.symm
        simp [List.lookup, hkey, hne, ih, add_assoc]

theorem sum_add : (d.add k v).values.sum = d.values.sum + v := sum_setEntry

theorem sum_tally : (d.tally rows).values.sum = d.values.sum + (rows.map (·.2)).sum := by
  induction rows generalizing d with
  | nil => simp [tally]
  | cons row rows ih =>
      have hrest := ih (d := d.add row.1 row.2)
      rw [sum_add] at hrest
      simpa [tally, add_assoc] using hrest

theorem sum_tally_empty (rows : List (κ × ν)) :
    ((empty : Dict κ ν).tally rows).values.sum = (rows.map (·.2)).sum := by
  rw [sum_tally, show (empty : Dict κ ν).values.sum = 0 from rfl, zero_add]

theorem lookup_add : ((d.add k v).lookup j).getD 0 =
    (d.lookup j).getD 0 + if j = k then v else 0 := by
  rcases eq_or_ne j k with rfl | hne
  · simp [add]
  · simp [add, hne]

theorem lookup_tally : ((d.tally rows).lookup k).getD 0 =
    (d.lookup k).getD 0 + ((rows.filter fun row => row.1 = k).map (·.2)).sum := by
  induction rows generalizing d with
  | nil => simp [tally]
  | cons row rows ih =>
      have hrest := ih (d := d.add row.1 row.2)
      rw [lookup_add] at hrest
      change ((Dict.tally (d.add row.1 row.2) rows).lookup k).getD 0 = _
      rw [hrest, add_assoc]
      rcases eq_or_ne row.1 k with rfl | hne
      · simp
      · simp [hne, hne.symm]

theorem lookup_tally_empty (rows : List (κ × ν)) :
    (((empty : Dict κ ν).tally rows).lookup k).getD 0 =
      ((rows.filter fun row => row.1 = k).map (·.2)).sum := by
  rw [lookup_tally, lookup_empty, Option.getD_none, zero_add]

theorem sum_filter_entries :
    ((d.entries.filter fun entry => entry.1 = k).map (·.2)).sum = (d.lookup k).getD 0 := by
  obtain ⟨entries, hnodup⟩ := d
  change _ = (entries.lookup k).getD 0
  induction entries with
  | nil => rfl
  | cons entry entries ih =>
      obtain ⟨j, w⟩ := entry
      obtain ⟨hnot, hnodup⟩ := List.nodup_cons.mp hnodup
      rcases eq_or_ne j k with rfl | hne
      · have hnone : entries.filter (fun entry => entry.1 = j) = [] :=
          List.filter_eq_nil_iff.mpr fun entry hentry => by
            simpa using fun heq : entry.1 = j =>
              hnot (List.mem_map.mpr ⟨entry, hentry, heq⟩)
        simp [hnone]
      · have hkey : (k == j) = false := by simpa using hne.symm
        simpa [List.lookup, hkey, hne] using ih hnodup

theorem forall_values_iff {P : ν → Prop} (hzero : P 0) :
    (∀ v ∈ d.values, P v) ↔ ∀ k, P ((d.lookup k).getD 0) := by
  constructor
  · intro h k
    cases hlookup : d.lookup k with
    | none => exact hzero
    | some v => exact h v (mem_values_iff.mpr ⟨k, hlookup⟩)
  · intro h v hv
    obtain ⟨k, hlookup⟩ := mem_values_iff.mp hv
    simpa [hlookup] using h k

end Tally

end Dict
