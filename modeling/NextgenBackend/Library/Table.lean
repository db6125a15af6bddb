import Mathlib

class Keyed (α : Type) (κ : outParam Type) where
  key : α → κ

export Keyed (key)

abbrev Table (α : Type) := List α

namespace Table

variable {α κ β : Type} [Keyed α κ] [DecidableEq κ]

def lookup (t : Table α) (k : κ) : Option α :=
  t.find? fun r => key r = k

def modify (t : Table α) (k : κ) (f : α → α) : Table α :=
  t.map fun r => if key r = k then f r else r

def insert (t : Table α) (r : α) : Table α :=
  t ++ [r]

def Unique (c : α → Option β) (t : Table α) : Prop :=
  (t.filterMap c).Nodup

instance [DecidableEq β] (c : α → Option β) (t : Table α) : Decidable (Unique c t) :=
  inferInstanceAs (Decidable (List.Nodup _))

def PrimaryKey (t : Table α) : Prop :=
  (t.map key).Nodup

instance (t : Table α) : Decidable (PrimaryKey t) :=
  inferInstanceAs (Decidable (List.Nodup _))

variable {t : Table α} {k k' : κ} {r r' : α} {f : α → α}

theorem lookup_key (h : t.lookup k = some r) : key r = k := by
  simpa using List.find?_some h

theorem lookup_mem (h : t.lookup k = some r) : r ∈ t :=
  List.mem_of_find?_eq_some h

theorem lookup_eq_none : t.lookup k = none ↔ ∀ r ∈ t, key r ≠ k := by
  simp [lookup]

theorem lookup_of_mem (hpk : t.PrimaryKey) (hr : r ∈ t) : t.lookup (key r) = some r := by
  induction t with
  | nil => simp at hr
  | cons r' t ih =>
      obtain ⟨hnot, hpk⟩ := List.nodup_cons.mp hpk
      rcases List.mem_cons.mp hr with rfl | hr
      · simp [lookup]
      · have hne : key r' ≠ key r := fun h => hnot (h ▸ List.mem_map_of_mem hr)
        simpa [lookup, List.find?_cons, hne] using ih hpk hr

theorem lookup_map (hf : ∀ r, key (f r) = key r) : Table.lookup (t.map f) k = (t.lookup k).map f := by
  induction t with
  | nil => rfl
  | cons r t ih =>
      by_cases h : key r = k
      · simp [lookup, h, hf]
      · simpa [lookup, List.find?_cons, h, hf] using ih

omit [DecidableEq κ] in
theorem primaryKey_map (hf : ∀ r, key (f r) = key r) :
    Table.PrimaryKey (t.map f) ↔ t.PrimaryKey := by
  have hkeys : (t.map f).map key = t.map key := by
    rw [List.map_map]
    exact List.map_congr_left fun r _ => hf r
  unfold PrimaryKey
  rw [hkeys]

theorem lookup_modify_self (hf : ∀ r, key (f r) = key r) :
    (t.modify k f).lookup k = (t.lookup k).map f := by
  induction t with
  | nil => rfl
  | cons r t ih =>
      by_cases h : key r = k
      · simp [lookup, modify, h, hf]
      · simpa [lookup, modify, List.find?_cons, h] using ih

theorem lookup_modify_ne (hf : ∀ r, key (f r) = key r) (hk : k' ≠ k) :
    (t.modify k f).lookup k' = t.lookup k' := by
  induction t with
  | nil => rfl
  | cons r t ih =>
      by_cases h : key r = k
      · have hne : k ≠ k' := fun h' => hk h'.symm
        simpa [lookup, modify, List.find?_cons, h, hf, hne] using ih
      · by_cases h' : key r = k'
        · subst h'
          simp [lookup, modify, h]
        · simpa [lookup, modify, List.find?_cons, h, h'] using ih

theorem lookup_modify (hf : ∀ r, key (f r) = key r) :
    (t.modify k f).lookup k' = if k' = k then (t.lookup k).map f else t.lookup k' := by
  split
  next h => exact h ▸ lookup_modify_self hf
  next h => exact lookup_modify_ne hf h

theorem lookup_insert : (t.insert r).lookup k = (t.lookup k).or (if key r = k then some r else none) := by
  by_cases h : key r = k <;> simp [lookup, insert, h]

theorem lookup_insert_ne (h : key r ≠ k) : (t.insert r).lookup k = t.lookup k := by
  simp [lookup_insert, h]

theorem lookup_insert_self (h : t.lookup (key r) = none) : (t.insert r).lookup (key r) = some r := by
  simp [lookup_insert, h]

theorem lookup_insert_of_some (h : t.lookup k = some r') : (t.insert r).lookup k = some r' := by
  simp [lookup_insert, h]

theorem primaryKey_insert : (t.insert r).PrimaryKey ↔ t.PrimaryKey ∧ t.lookup (key r) = none := by
  unfold PrimaryKey insert
  rw [List.map_append, List.nodup_append]
  simp only [lookup_eq_none, List.map_cons, List.map_nil, List.nodup_singleton, List.mem_map,
    List.mem_singleton, true_and, ne_eq]
  constructor
  · rintro ⟨h, hne⟩
    exact ⟨h, fun r' hr' hk => hne _ ⟨r', hr', hk⟩ _ rfl rfl⟩
  · rintro ⟨h, hne⟩
    refine ⟨h, ?_⟩
    rintro _ ⟨r', hr', rfl⟩ _ rfl
    exact hne r' hr'

theorem Unique.insert_ne {c : α → Option β} {b : β} (h : Unique c (t.insert r)) (hr : r' ∈ t)
    (hb : c r' = some b) : c r ≠ some b := by
  intro heq
  unfold Unique insert at h
  rw [List.filterMap_append, List.filterMap_cons, heq] at h
  exact (List.nodup_append.mp h).2.2 b (List.mem_filterMap.mpr ⟨r', hr, hb⟩) b (by simp) rfl

theorem unique_insert {c : α → Option β} {b : β} (hr : c r = some b) :
    Unique c (t.insert r) ↔ Unique c t ∧ ∀ r' ∈ t, c r' ≠ some b := by
  unfold Unique insert
  rw [List.filterMap_append, List.nodup_append]
  simp only [List.filterMap_cons, List.filterMap_nil, hr, List.nodup_singleton, true_and,
    List.mem_filterMap, List.mem_singleton]
  constructor
  · rintro ⟨hnodup, hdistinct⟩
    exact ⟨hnodup, fun r' hr' hb => hdistinct b ⟨r', hr', hb⟩ b rfl rfl⟩
  · rintro ⟨hnodup, hnot⟩
    refine ⟨hnodup, ?_⟩
    rintro _ ⟨r', hr', hb⟩ _ rfl rfl
    exact hnot r' hr' hb

theorem Unique.length_le_one {c : α → Option β} {b : β} {rows : List α} (h : Unique c t)
    (hsub : rows.Sublist t) (hrows : ∀ r ∈ rows, c r = some b) : rows.length ≤ 1 := by
  have hnodup : (rows.filterMap c).Nodup := (hsub.filterMap c).nodup h
  have hconst : rows.filterMap c = rows.map fun _ => b := by
    rw [← List.filterMap_eq_map]
    exact List.filterMap_congr hrows
  rw [hconst, List.map_const'] at hnodup
  exact List.nodup_replicate.mp hnodup

theorem Unique.eq_of_mem {c : α → Option β} {b : β} (h : Unique c t) (hr : r ∈ t) (hr' : r' ∈ t)
    (hb : c r = some b) (hb' : c r' = some b) : r = r' := by
  have hpairwise : t.Pairwise fun r r' => ∀ b, c r = some b → c r' = some b → r = r' :=
    (List.pairwise_filterMap.mp h).imp fun hne b hb hb' => absurd rfl (hne b hb b hb')
  have hsymm : Std.Symm fun r r' : α => ∀ b, c r = some b → c r' = some b → r = r' :=
    ⟨fun _ _ hsame b hb hb' => (hsame b hb' hb).symm⟩
  exact hpairwise.forall_of_forall (fun _ _ _ _ _ => rfl) hr hr' b hb hb'

theorem map_key_modify (hf : ∀ r, key (f r) = key r) : (t.modify k f).map key = t.map key := by
  simp only [modify, List.map_map]
  refine List.map_congr_left fun r _ => ?_
  by_cases h : key r = k <;> simp [h, hf]

theorem primaryKey_modify (hf : ∀ r, key (f r) = key r) :
    (t.modify k f).PrimaryKey ↔ t.PrimaryKey := by
  simp only [PrimaryKey, map_key_modify hf]

-- The row that is changed is the only one of its key.
theorem sum_modify {g : α → ℤ} (hpk : t.PrimaryKey) (hlookup : t.lookup k = some r) :
    ((t.modify k f).map g).sum = (t.map g).sum - g r + g (f r) := by
  induction t with
  | nil => cases hlookup
  | cons r' t ih =>
      obtain ⟨hnot, hpk⟩ := List.nodup_cons.mp hpk
      by_cases h : key r' = k
      · have hr : r' = r := by simpa [lookup, List.find?_cons, h] using hlookup
        have hrest : Table.modify t k f = t := by
          refine (List.map_congr_left fun r'' hr'' => if_neg fun heq => ?_).trans (List.map_id t)
          exact hnot (h ▸ heq ▸ List.mem_map_of_mem hr'')
        subst hr
        rw [modify, List.map_cons, if_pos h, ← modify, hrest, List.map_cons, List.sum_cons,
          List.map_cons, List.sum_cons]
        omega
      · have hlookup' : Table.lookup t k = some r := by
          simpa [lookup, List.find?_cons, h] using hlookup
        rw [modify, List.map_cons, if_neg h, ← modify, List.map_cons, List.sum_cons, ih hpk hlookup',
          List.map_cons, List.sum_cons]
        omega

theorem mem_modify (h : r ∈ t.modify k f) : ∃ r₀ ∈ t, r = r₀ ∨ r = f r₀ := by
  obtain ⟨r₀, hr₀, rfl⟩ := List.mem_map.mp h
  by_cases hk : key r₀ = k
  · exact ⟨r₀, hr₀, .inr (by simp [hk])⟩
  · exact ⟨r₀, hr₀, .inl (by simp [hk])⟩

theorem mem_modify_lookup (hpk : t.PrimaryKey) (hlookup : t.lookup k = some r')
    (h : r ∈ t.modify k f) : r ∈ t ∨ r = f r' := by
  obtain ⟨r₀, hr₀, rfl⟩ := List.mem_map.mp h
  by_cases hk : key r₀ = k
  · have hsame : r₀ = r' := by
      have hmem := lookup_of_mem hpk hr₀
      rw [hk, hlookup] at hmem
      exact (Option.some.inj hmem).symm
    right
    rw [if_pos hk, hsame]
  · left
    rw [if_neg hk]
    exact hr₀

-- Only the row that is changed may take a value that no row had.
theorem Unique.modify {c : α → Option β} {b : β} (h : Unique c t) (hpk : t.PrimaryKey)
    (hnew : ∀ r ∈ t, c r ≠ some b) (hf : ∀ r, c (f r) = some b) : Unique c (t.modify k f) := by
  have hkeys : t.Pairwise fun r r' => key r ≠ key r' := List.pairwise_map.mp hpk
  have hvalues := List.pairwise_filterMap.mp h
  refine List.pairwise_filterMap.mpr (List.pairwise_map.mpr
    ((hkeys.and hvalues).imp_of_mem fun {r r'} hr hr' hboth a ha a' ha' => ?_))
  by_cases hk : key r = k
  · have hk' : key r' ≠ k := fun hk' => hboth.1 (hk.trans hk'.symm)
    rw [if_pos hk, hf] at ha
    rw [if_neg hk'] at ha'
    rintro rfl
    exact hnew r' hr' (ha'.trans ha.symm)
  · rw [if_neg hk] at ha
    by_cases hk' : key r' = k
    · rw [if_pos hk', hf] at ha'
      rintro rfl
      exact hnew r hr (ha.trans ha'.symm)
    · rw [if_neg hk'] at ha'
      exact hboth.2 a ha a' ha'

theorem filterMap_modify {c : α → Option β} (hf : ∀ r, c (f r) = c r) :
    (t.modify k f).filterMap c = t.filterMap c := by
  simp only [modify, List.filterMap_map]
  refine List.filterMap_congr fun r _ => ?_
  by_cases h : key r = k <;> simp [h, hf]

theorem isSome_lookup_modify (hf : ∀ r, key (f r) = key r) :
    ((t.modify k f).lookup k').isSome = (t.lookup k').isSome := by
  rw [lookup_modify hf]
  split
  next h => rw [h, Option.isSome_map]
  next => rfl

section References

variable {ρ : Type} {rows : List ρ} {ref : ρ → Option κ} {p : α → Prop} [DecidablePred p]
  {g : ρ → Int} {h : α → Int}

def referred (t : Table α) (ref : ρ → Option κ) (r : ρ) : Option α :=
  (ref r).bind t.lookup

theorem map_referred (hrows : ∀ r ∈ rows, ∃ x, ref r = some (key x) ∧ t.lookup (key x) = some x) :
    (rows.filterMap (t.referred ref)).map key = rows.filterMap ref := by
  rw [List.map_filterMap]
  refine List.filterMap_congr fun r hr => ?_
  obtain ⟨x, href, hx⟩ := hrows r hr
  simp [referred, href, hx]

-- Rows that refer to distinct entries of a table weigh no more than the entries they refer to.
theorem sum_referred_le (hnodup : (rows.filterMap ref).Nodup)
    (hrows : ∀ r ∈ rows, ∃ x, ref r = some (key x) ∧ t.lookup (key x) = some x ∧ p x ∧ g r = h x)
    (hnonneg : ∀ x ∈ t, 0 ≤ h x) :
    (rows.map g).sum ≤ ((t.filter fun x => p x).map h).sum := by
  have hkeys : (rows.filterMap (t.referred ref)).map key = rows.filterMap ref := by
    refine map_referred fun r hr => ?_
    obtain ⟨x, href, hx, -⟩ := hrows r hr
    exact ⟨x, href, hx⟩
  have hweights : rows.map g = (rows.filterMap (t.referred ref)).map h := by
    rw [List.map_filterMap, ← List.filterMap_eq_map]
    refine List.filterMap_congr fun r hr => ?_
    obtain ⟨x, href, hx, -, hg⟩ := hrows r hr
    simp [referred, href, hx, hg]
  have hdistinct : (rows.filterMap (t.referred ref)).Nodup :=
    List.Nodup.of_map key (by rw [hkeys]; exact hnodup)
  have hsubset : rows.filterMap (t.referred ref) ⊆ t.filter fun x => p x := by
    intro x hx
    obtain ⟨r, hr, hxr⟩ := List.mem_filterMap.mp hx
    obtain ⟨y, href, hy, hp, -⟩ := hrows r hr
    have hxy : y = x := by simpa [referred, href, hy] using hxr
    subst hxy
    exact List.mem_filter.mpr ⟨lookup_mem hy, by simpa using hp⟩
  obtain ⟨picked, hperm, hsub⟩ := hdistinct.subperm hsubset
  rw [hweights, ← (hperm.map h).sum_eq]
  refine (hsub.map h).sum_le_sum fun w hw => ?_
  obtain ⟨x, hx, rfl⟩ := List.mem_map.mp hw
  exact hnonneg x (List.mem_filter.mp hx).1

end References

end Table
