import Mathlib
import NextgenBackend.Library.RelyGuarantee

namespace Interleaving

open RelyGuarantee

variable {ι Db Key Site Err α : Type}

structure Config (ι Db Key Site Err α : Type) where
  db : Db
  owner : Key → Option ι
  prog : ι → Txn Db Key Site Err α
  log : List (ι × Site)

def start (db : Db) (prog : ι → Txn Db Key Site Err α) : Config ι Db Key Site Err α where
  db := db
  owner := fun _ => none
  prog := prog
  log := []

def held (owner : Key → Option ι) (i : ι) : Set Key :=
  {key | owner key = some i}

def release [DecidableEq ι] (owner : Key → Option ι) (i : ι) : Key → Option ι := fun key =>
  if owner key = some i then none else owner key

def Config.free (c : Config ι Db Key Site Err α) (i : ι) (key : Key) : Prop :=
  c.owner key = none ∨ c.owner key = some i

section Semantics

variable [DecidableEq ι] [DecidableEq Key]

instance (c : Config ι Db Key Site Err α) (i : ι) (key : Key) : Decidable (c.free i key) :=
  inferInstanceAs (Decidable (_ ∨ _))

def Config.step? (c : Config ι Db Key Site Err α) (i : ι) :
    Option (Config ι Db Key Site Err α) :=
  match c.prog i with
  | .done _ => some { c with owner := release c.owner i }
  | .fail _ => some { c with owner := release c.owner i }
  | .select k => some { c with prog := Function.update c.prog i (k c.db) }
  | .selectForUpdate key k =>
      if c.free i key then
        some { c with
          owner := Function.update c.owner key (some i)
          prog := Function.update c.prog i (k c.db) }
      else none
  | .commit site keys write k =>
      if ∀ key ∈ keys, c.free i key then
        match write c.db with
        | .ok db => some
            { db := db
              owner := release c.owner i
              prog := Function.update c.prog i (k none)
              log := c.log ++ [(i, site)] }
        | .error e => some { c with
            owner := release c.owner i
            prog := Function.update c.prog i (k (some e)) }
      else none
  | .send site effect k => some { c with
      db := effect c.db
      prog := Function.update c.prog i k
      log := c.log ++ [(i, site)] }

inductive Step (env : Db → Db → Prop) (admits : Config ι Db Key Site Err α → ι → Prop) :
    Config ι Db Key Site Err α → Config ι Db Key Site Err α → Prop
  | thread {c c' : Config ι Db Key Site Err α} (i : ι) :
      admits c i → c.step? i = some c' → Step env admits c c'
  | environment {c : Config ι Db Key Site Err α} {db : Db} :
      env c.db db → Step env admits c { c with db := db }

def Reachable (env : Db → Db → Prop) (admits : Config ι Db Key Site Err α → ι → Prop) :
    Config ι Db Key Site Err α → Config ι Db Key Site Err α → Prop :=
  Relation.ReflTransGen (Step env admits)

def Config.schedule (admits : Config ι Db Key Site Err α → ι → Prop)
    [∀ c i, Decidable (admits c i)] (c : Config ι Db Key Site Err α) :
    List ι → Option (Config ι Db Key Site Err α)
  | [] => some c
  | i :: is => if admits c i then (c.step? i).bind fun c' => c'.schedule admits is else none

theorem schedule_reachable {env : Db → Db → Prop}
    {admits : Config ι Db Key Site Err α → ι → Prop} [∀ c i, Decidable (admits c i)]
    {c c' : Config ι Db Key Site Err α} {is : List ι} (h : c' ∈ c.schedule admits is) :
    Reachable env admits c c' := by
  induction is generalizing c with
  | nil =>
      obtain rfl := Option.some.inj h
      exact .refl
  | cons i is ih =>
      simp only [Config.schedule, Option.mem_def, Option.ite_none_right_eq_some] at h
      obtain ⟨hadmits, h⟩ := h
      obtain ⟨c1, hstep, hrest⟩ := Option.bind_eq_some_iff.mp h
      exact .head (.thread i hadmits hstep) (ih hrest)

def Config.Meets (p : Site → Db → Prop) (c : Config ι Db Key Site Err α) (i : ι) : Prop :=
  match c.prog i with
  | .commit site _ _ _ => p site c.db
  | .send site _ _ => p site c.db
  | _ => True

omit [DecidableEq ι] [DecidableEq Key] in
theorem meets_of_forall {p : Site → Db → Prop} (h : ∀ site db, p site db)
    (c : Config ι Db Key Site Err α) (i : ι) : c.Meets p i := by
  unfold Config.Meets
  split
  · exact h _ _
  · exact h _ _
  · trivial

instance (p : Site → Db → Prop) [∀ site db, Decidable (p site db)]
    (c : Config ι Db Key Site Err α) (i : ι) : Decidable (c.Meets p i) :=
  match h : c.prog i with
  | .commit site _ _ _ => decidable_of_iff (p site c.db) (by simp [Config.Meets, h])
  | .send site _ _ => decidable_of_iff (p site c.db) (by simp [Config.Meets, h])
  | .done _ => isTrue (by simp [Config.Meets, h])
  | .fail _ => isTrue (by simp [Config.Meets, h])
  | .select _ => isTrue (by simp [Config.Meets, h])
  | .selectForUpdate _ _ => isTrue (by simp [Config.Meets, h])

end Semantics

def Consistent (D : Discipline Db Key Site) (Q : ι → Except Err α → Prop)
    (c : Config ι Db Key Site Err α) : Prop :=
  D.inv c.db ∧ ∀ i, ∃ db, D.rely (held c.owner i) db c.db ∧
    Safe D (held c.owner i) db (c.prog i) fun r _ _ => Q i r

def Traced (D : Discipline Db Key Site) (G : Site → Db → Db → Prop) (Q : ι → Except Err α → Prop)
    (c : Config ι Db Key Site Err α) : Prop :=
  D.inv c.db ∧ ∀ i, ∃ db, D.rely (held c.owner i) db c.db ∧
    Traces D G (held c.owner i) db (c.prog i) fun r _ _ => Q i r

section Locks

variable {owner : Key → Option ι} {i j : ι} {key : Key}

theorem held_disjoint (hij : j ≠ i) {keys : List Key}
    (hfree : ∀ key ∈ keys, owner key = none ∨ owner key = some i) :
    Disjoint (held owner i ∪ {key | key ∈ keys}) (held owner j) := by
  rw [Set.disjoint_left]
  rintro key (hi | hkey) (hj : owner key = some j)
  · exact hij (Option.some.inj (hj.symm.trans hi))
  · rcases hfree key hkey with h | h
    · simp [h] at hj
    · exact hij (Option.some.inj (hj.symm.trans h))

theorem held_update_self [DecidableEq Key] :
    held (Function.update owner key (some i)) i = insert key (held owner i) := by
  ext k
  by_cases hk : k = key <;> simp [held, hk]

theorem held_update_ne [DecidableEq Key] (hij : j ≠ i)
    (hfree : owner key = none ∨ owner key = some i) :
    held (Function.update owner key (some i)) j = held owner j := by
  ext k
  by_cases hk : k = key
  · subst hk
    rcases hfree with h | h <;> simp [held, h, Ne.symm hij]
  · simp [held, hk]

variable [DecidableEq ι]

theorem held_release_self : held (release owner i) i = ∅ := by
  ext key
  simp [held, release]

theorem held_release_ne (hij : j ≠ i) : held (release owner i) j = held owner j := by
  ext key
  simp only [release, held, Set.mem_ofPred_eq]
  split
  next h => simp [h, Ne.symm hij]
  next => rfl

end Locks

variable {env : Db → Db → Prop} {D : Discipline Db Key Site} {Q : ι → Except Err α → Prop}
  {G : Site → Db → Db → Prop} {c c' : Config ι Db Key Site Err α}

theorem consistent_iff_traced : Consistent D Q c ↔ Traced D (fun _ _ _ => True) Q c := by
  simp only [Consistent, Traced, safe_iff_traces]

theorem traced_start {db : Db} {prog : ι → Txn Db Key Site Err α} (hinv : D.inv db)
    (htraces : ∀ i, Traces D G ∅ db (prog i) fun r _ _ => Q i r) :
    Traced D G Q (start db prog) := by
  have hheld (i : ι) : held (start db prog).owner i = (∅ : Set Key) := by
    ext key
    simp [held, start]
  exact ⟨hinv, fun i => ⟨db, D.rely_refl _ _, by rw [hheld]; exact htraces i⟩⟩

theorem traced_environment {db : Db} (henv : D.Respects env) (h : Traced D G Q c)
    (hstep : env c.db db) : Traced D G Q { c with db := db } := by
  obtain ⟨hinv, hprog⟩ := h
  obtain ⟨hinv', hrely⟩ := henv _ _ hinv hstep
  refine ⟨hinv', fun i => ?_⟩
  obtain ⟨db0, hr, hs⟩ := hprog i
  exact ⟨db0, D.rely_trans _ _ _ _ hr (hrely _), hs⟩

theorem consistent_start {db : Db} {prog : ι → Txn Db Key Site Err α} (hinv : D.inv db)
    (hsafe : ∀ i, Safe D ∅ db (prog i) fun r _ _ => Q i r) :
    Consistent D Q (start db prog) :=
  consistent_iff_traced.mpr (traced_start hinv fun i => safe_iff_traces.mp (hsafe i))

theorem consistent_environment {db : Db} (henv : D.Respects env) (h : Consistent D Q c)
    (hstep : env c.db db) : Consistent D Q { c with db := db } :=
  consistent_iff_traced.mpr (traced_environment henv (consistent_iff_traced.mp h) hstep)

variable [DecidableEq ι] [DecidableEq Key]

-- What a step of a traced thread changes, if it changes anything, and the site it logs.
def Committed (D : Discipline Db Key Site) (G : Site → Db → Db → Prop)
    (c c' : Config ι Db Key Site Err α) (i : ι) : Prop :=
  (c'.db = c.db ∧ c'.log = c.log) ∨ ∃ site L, (∀ p : Site → Db → Prop, c.Meets p i → p site c.db) ∧
    D.guar L c.db c'.db ∧ G site c.db c'.db ∧ c'.log = c.log ++ [(i, site)]

theorem traced_thread {i : ι} (h : Traced D G Q c) (hadmits : c.Meets D.admits i)
    (hstep : c.step? i = some c') : Traced D G Q c' ∧ Committed D G c c' i := by
  obtain ⟨hinv, hprog⟩ := h
  have of_released {prog : Txn Db Key Site Err α} {db : Db} {log : List (ι × Site)}
      (hinv' : D.inv db) (htraces : Traces D G ∅ db prog fun r _ _ => Q i r)
      (hrely : ∀ j, j ≠ i → D.rely (held c.owner j) c.db db) :
      Traced D G Q ⟨db, release c.owner i, Function.update c.prog i prog, log⟩ := by
    refine ⟨hinv', fun j => ?_⟩
    by_cases hj : j = i
    · subst hj
      refine ⟨db, D.rely_refl _ _, ?_⟩
      simpa only [held_release_self, Function.update_self] using htraces
    · obtain ⟨db0, hr, hs⟩ := hprog j
      refine ⟨db0, ?_, ?_⟩
      · rw [held_release_ne hj]
        exact D.rely_trans _ _ _ _ hr (hrely j hj)
      · simpa only [held_release_ne hj, Function.update_of_ne hj] using hs
  have of_acquired {owner : Key → Option ι} {prog : Txn Db Key Site Err α}
      (hheld : ∀ j, j ≠ i → held owner j = held c.owner j)
      (htraces : Traces D G (held owner i) c.db prog fun r _ _ => Q i r) :
      Traced D G Q ⟨c.db, owner, Function.update c.prog i prog, c.log⟩ := by
    refine ⟨hinv, fun j => ?_⟩
    by_cases hj : j = i
    · subst hj
      exact ⟨c.db, D.rely_refl _ _, by simpa only [Function.update_self] using htraces⟩
    · obtain ⟨db0, hr, hs⟩ := hprog j
      refine ⟨db0, by rwa [hheld j hj], ?_⟩
      simpa only [hheld j hj, Function.update_of_ne hj] using hs
  obtain ⟨db0, hr, hs⟩ := hprog i
  unfold Config.step? at hstep
  cases hp : c.prog i with
  | done a =>
      rw [hp] at hstep hs
      obtain rfl := Option.some.inj hstep
      have hupd : Traced D G Q ⟨c.db, release c.owner i, Function.update c.prog i (.done a),
          c.log⟩ := of_released hinv hs fun _ _ => D.rely_refl _ _
      rw [← hp, Function.update_eq_self] at hupd
      exact ⟨hupd, .inl ⟨rfl, rfl⟩⟩
  | fail e =>
      rw [hp] at hstep hs
      obtain rfl := Option.some.inj hstep
      have hupd : Traced D G Q ⟨c.db, release c.owner i, Function.update c.prog i (.fail e),
          c.log⟩ := of_released hinv hs fun _ _ => D.rely_refl _ _
      rw [← hp, Function.update_eq_self] at hupd
      exact ⟨hupd, .inl ⟨rfl, rfl⟩⟩
  | select k =>
      rw [hp] at hstep hs
      obtain rfl := Option.some.inj hstep
      exact ⟨of_acquired (fun _ _ => rfl) (hs c.db hinv hr), .inl ⟨rfl, rfl⟩⟩
  | selectForUpdate key k =>
      rw [hp] at hstep hs
      simp only [Option.ite_none_right_eq_some, Option.some.injEq] at hstep
      obtain ⟨hfree, rfl⟩ := hstep
      refine ⟨of_acquired (fun j hj => held_update_ne hj hfree) ?_, .inl ⟨rfl, rfl⟩⟩
      rw [held_update_self]
      exact hs c.db hinv hr
  | commit site keys write k =>
      rw [hp] at hstep hs
      simp only [Option.ite_none_right_eq_some] at hstep
      obtain ⟨hfree, hstep⟩ := hstep
      have hmeets (p : Site → Db → Prop) (hp' : c.Meets p i) : p site c.db := by
        simpa only [Config.Meets, hp] using hp'
      obtain ⟨hok, herr⟩ := hs c.db hinv hr (hmeets _ hadmits)
      cases hw : write c.db with
      | ok db' =>
          rw [hw] at hstep
          obtain rfl := Option.some.inj hstep
          obtain ⟨⟨hguar, hG⟩, htraces⟩ := hok db' hw
          refine ⟨of_released (D.guar_inv _ _ _ hinv hguar) htraces fun j hj =>
            D.guar_rely _ _ _ _ (held_disjoint hj hfree) hinv hguar, .inr ?_⟩
          exact ⟨site, _, hmeets, hguar, hG, rfl⟩
      | error e =>
          rw [hw] at hstep
          obtain rfl := Option.some.inj hstep
          exact ⟨of_released hinv (herr e hw) fun _ _ => D.rely_refl _ _, .inl ⟨rfl, rfl⟩⟩
  | send site effect k =>
      rw [hp] at hstep hs
      obtain rfl := Option.some.inj hstep
      have hmeets (p : Site → Db → Prop) (hp' : c.Meets p i) : p site c.db := by
        simpa only [Config.Meets, hp] using hp'
      obtain ⟨⟨hguar, hG⟩, htraces⟩ := hs c.db hinv hr (hmeets _ hadmits)
      refine ⟨⟨D.guar_inv _ _ _ hinv hguar, fun j => ?_⟩, .inr ⟨site, _, hmeets, hguar, hG, rfl⟩⟩
      by_cases hj : j = i
      · subst hj
        exact ⟨effect c.db, D.rely_refl _ _, by simpa only [Function.update_self] using htraces⟩
      · obtain ⟨db1, hr', hs'⟩ := hprog j
        have hfree : ∀ key ∈ ([] : List Key), c.owner key = none ∨ c.owner key = some i := by
          simp
        have hdisjoint : Disjoint (held c.owner i) (held c.owner j) :=
          (held_disjoint hj hfree).mono_left Set.subset_union_left
        refine ⟨db1, D.rely_trans _ _ _ _ hr' (D.guar_rely _ _ _ _ hdisjoint hinv hguar), ?_⟩
        simpa only [Function.update_of_ne hj] using hs'

theorem consistent_thread {i : ι} (h : Consistent D Q c) (hadmits : c.Meets D.admits i)
    (hstep : c.step? i = some c') : Consistent D Q c' :=
  consistent_iff_traced.mpr (traced_thread (consistent_iff_traced.mp h) hadmits hstep).1

variable {admits : Config ι Db Key Site Err α → ι → Prop}

theorem consistent_step (henv : D.Respects env) (hadmits : ∀ c i, admits c i → c.Meets D.admits i)
    (h : Consistent D Q c) (hstep : Step env admits c c') : Consistent D Q c' := by
  cases hstep with
  | thread i ha hi => exact consistent_thread h (hadmits c i ha) hi
  | environment he => exact consistent_environment henv h he

theorem consistent_reachable (henv : D.Respects env)
    (hadmits : ∀ c i, admits c i → c.Meets D.admits i) (h : Consistent D Q c)
    (hreach : Reachable env admits c c') : Consistent D Q c' := by
  induction hreach with
  | refl => exact h
  | tail _ hstep ih => exact consistent_step henv hadmits ih hstep

theorem guarantee_thread {i : ι} (h : Consistent D Q c) (hadmits : c.Meets D.admits i)
    (hstep : c.step? i = some c') : c'.db = c.db ∨ ∃ L, D.guar L c.db c'.db := by
  obtain ⟨-, ⟨hsame, -⟩ | ⟨_, L, -, hguar, -⟩⟩ :=
    traced_thread (consistent_iff_traced.mp h) hadmits hstep
  · exact .inl hsame
  · exact .inr ⟨L, hguar⟩

-- What every logged commit preserves, given what was logged before it, holds in every state.
theorem traced_reachable {I : Db → List (ι × Site) → Prop} {p : List (ι × Site) → Site → Db → Prop}
    (hcommit : ∀ i site L db db' log, D.inv db → p log site db → D.guar L db db' → G site db db' →
      I db log → I db' (log ++ [(i, site)]))
    (hkeeps : ∀ db db' log, D.inv db → env db db' → I db log → I db' log) (henv : D.Respects env)
    (hadmits : ∀ c i, admits c i → c.Meets D.admits i ∧ c.Meets (p c.log) i) (h : Traced D G Q c)
    (hI : I c.db c.log) (hreach : Reachable env admits c c') :
    Traced D G Q c' ∧ I c'.db c'.log := by
  induction hreach with
  | refl => exact ⟨h, hI⟩
  | tail _ hstep ih =>
      obtain ⟨htraced, hI⟩ := ih
      cases hstep with
      | thread i ha hi =>
          obtain ⟨hdiscipline, hp⟩ := hadmits _ i ha
          obtain ⟨htraced', ⟨hdb, hlog⟩ | ⟨site, L, hmeets, hguar, hG, hlog⟩⟩ :=
            traced_thread htraced hdiscipline hi
          · rw [hdb, hlog]
            exact ⟨htraced', hI⟩
          · rw [hlog]
            exact ⟨htraced', hcommit i site L _ _ _ htraced.1 (hmeets _ hp) hguar hG hI⟩
      | environment he =>
          exact ⟨traced_environment henv htraced he, hkeeps _ _ _ htraced.1 he hI⟩

theorem reachable_evolves {T : Db → Db → Prop} (hrefl : ∀ db, T db db)
    (htrans : ∀ a b c, T a b → T b c → T a c) (hguar : ∀ L a b, D.inv a → D.guar L a b → T a b)
    (hT : ∀ a b, D.inv a → env a b → T a b) (henv : D.Respects env)
    (hadmits : ∀ c i, admits c i → c.Meets D.admits i) (h : Consistent D Q c)
    (hreach : Reachable env admits c c') : T c.db c'.db := by
  induction hreach with
  | refl => exact hrefl _
  | @tail c1 c2 hfirst hstep ih =>
      have h1 := consistent_reachable henv hadmits h hfirst
      refine htrans _ _ _ ih ?_
      cases hstep with
      | thread i ha hi =>
          rcases guarantee_thread h1 (hadmits _ i ha) hi with heq | ⟨L, hg⟩
          · rw [heq]
            exact hrefl _
          · exact hguar L _ _ h1.1 hg
      | environment he => exact hT _ _ h1.1 he

section Commits

variable {P : ι → Site → List Key → (Db → Except Err Db) → Prop} {p : ι → Site → Db → Prop}
  {I : Db → List (ι × Site) → Prop}

def Follows (P : ι → Site → List Key → (Db → Except Err Db) → Prop)
    (c : Config ι Db Key Site Err α) : Prop :=
  ∀ i, (c.prog i).Conforms (P i) fun _ => True

omit [DecidableEq Key] in
theorem follows_update {i : ι} {prog : Txn Db Key Site Err α} {db : Db} {owner : Key → Option ι}
    {log : List (ι × Site)} (h : Follows P c) (hprog : prog.Conforms (P i) fun _ => True) :
    Follows P ⟨db, owner, Function.update c.prog i prog, log⟩ := by
  intro j
  by_cases hj : j = i
  · subst hj
    simpa only [Function.update_self] using hprog
  · simpa only [Function.update_of_ne hj] using h j

theorem thread_commits {i : ι} (h : Follows P c) (hstep : c.step? i = some c') :
    Follows P c' ∧ ((c'.db = c.db ∧ c'.log = c.log) ∨ ∃ site keys write, P i site keys write ∧
      (∀ p : Site → Db → Prop, c.Meets p i → p site c.db) ∧ write c.db = .ok c'.db ∧
        c'.log = c.log ++ [(i, site)]) := by
  have hprog := h i
  unfold Config.step? at hstep
  cases hp : c.prog i with
  | done a =>
      rw [hp] at hstep
      obtain rfl := Option.some.inj hstep
      exact ⟨h, .inl ⟨rfl, rfl⟩⟩
  | fail e =>
      rw [hp] at hstep
      obtain rfl := Option.some.inj hstep
      exact ⟨h, .inl ⟨rfl, rfl⟩⟩
  | select k =>
      rw [hp] at hstep hprog
      obtain rfl := Option.some.inj hstep
      exact ⟨follows_update h (hprog c.db), .inl ⟨rfl, rfl⟩⟩
  | selectForUpdate key k =>
      rw [hp] at hstep hprog
      simp only [Option.ite_none_right_eq_some, Option.some.injEq] at hstep
      obtain ⟨-, rfl⟩ := hstep
      exact ⟨follows_update h (hprog c.db), .inl ⟨rfl, rfl⟩⟩
  | commit site keys write k =>
      rw [hp] at hstep hprog
      simp only [Option.ite_none_right_eq_some] at hstep
      obtain ⟨-, hstep⟩ := hstep
      have hmeets (p : Site → Db → Prop) (hadmits : c.Meets p i) : p site c.db := by
        simpa only [Config.Meets, hp] using hadmits
      cases hw : write c.db with
      | ok db' =>
          rw [hw] at hstep
          obtain rfl := Option.some.inj hstep
          exact ⟨follows_update h (hprog.2 none),
            .inr ⟨site, keys, write, hprog.1, hmeets, hw, rfl⟩⟩
      | error e =>
          rw [hw] at hstep
          obtain rfl := Option.some.inj hstep
          exact ⟨follows_update h (hprog.2 (some e)), .inl ⟨rfl, rfl⟩⟩
  | send site effect k =>
      rw [hp] at hstep hprog
      obtain rfl := Option.some.inj hstep
      have hmeets (p : Site → Db → Prop) (hadmits : c.Meets p i) : p site c.db := by
        simpa only [Config.Meets, hp] using hadmits
      exact ⟨follows_update h hprog.2, .inr ⟨site, [], _, hprog.1, hmeets, rfl, rfl⟩⟩

-- What every commit of the right shape preserves holds wherever the threads can get to.
theorem invariant_thread {i : ι}
    (hcommit : ∀ i site keys write db db' log, P i site keys write → p i site db → I db log →
      write db = .ok db' → I db' (log ++ [(i, site)]))
    (h : Follows P c) (hI : I c.db c.log) (hadmits : c.Meets (p i) i)
    (hstep : c.step? i = some c') : Follows P c' ∧ I c'.db c'.log := by
  obtain ⟨hfollows, ⟨hdb, hlog⟩ | ⟨site, keys, write, hP, hmeets, hwrite, hlog⟩⟩ :=
    thread_commits h hstep
  · rw [hdb, hlog]
    exact ⟨hfollows, hI⟩
  · rw [hlog]
    exact ⟨hfollows, hcommit _ _ _ _ _ _ _ hP (hmeets (p i) hadmits) hI hwrite⟩

theorem invariant_reachable
    (hcommit : ∀ i site keys write db db' log, P i site keys write → p i site db → I db log →
      write db = .ok db' → I db' (log ++ [(i, site)]))
    (henv : ∀ db db' log, env db db' → I db log → I db' log)
    (hadmits : ∀ c i, admits c i → c.Meets (p i) i) (h : Follows P c) (hI : I c.db c.log)
    (hreach : Reachable env admits c c') : Follows P c' ∧ I c'.db c'.log := by
  induction hreach with
  | refl => exact ⟨h, hI⟩
  | tail _ hstep ih =>
      obtain ⟨hfollows, hI⟩ := ih
      cases hstep with
      | thread i ha hi => exact invariant_thread hcommit hfollows hI (hadmits _ i ha) hi
      | environment he => exact ⟨hfollows, henv _ _ _ he hI⟩

end Commits

end Interleaving
