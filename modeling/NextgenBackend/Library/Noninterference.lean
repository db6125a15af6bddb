import NextgenBackend.Library.Interleaving

namespace Txn

variable {Db Key Site Err α β : Type} {K : Set Key} {R : Db → Db → Prop} {P : α → Prop}

def Agree (R : Db → Db → Prop) : Except Err Db → Except Err Db → Prop
  | .ok db, .ok db' => R db db'
  | .error e, .error e' => e = e'
  | _, _ => False

-- Whatever the program reads is the same on related databases, it keeps them related, and it takes
-- and awaits locks on these keys only.
def Oblivious (K : Set Key) (R : Db → Db → Prop) (P : α → Prop) : Txn Db Key Site Err α → Prop
  | done a => P a
  | fail _ => True
  | select k => (∀ db db', R db db' → k db' = k db) ∧ ∀ db, (k db).Oblivious K R P
  | selectForUpdate key k =>
      key ∈ K ∧ (∀ db db', R db db' → k db' = k db) ∧ ∀ db, (k db).Oblivious K R P
  | commit _ keys write k => (∀ key ∈ keys, key ∈ K) ∧
      (∀ db db', R db db' → Agree R (write db) (write db')) ∧ ∀ fault, (k fault).Oblivious K R P
  | send _ effect k => (∀ db db', R db db' → R (effect db) (effect db')) ∧ k.Oblivious K R P

-- Whatever the program does to a database leaves it related to the one that does not see it.
def Invisible (K : Set Key) (R : Db → Db → Prop) (P : α → Prop) : Txn Db Key Site Err α → Prop
  | done a => P a
  | fail _ => True
  | select k => ∀ shown db, R shown db → (k db).Invisible K R P
  | selectForUpdate key k => key ∉ K ∧ ∀ shown db, R shown db → (k db).Invisible K R P
  | commit _ _ write k => (∀ shown db db', R shown db → write db = .ok db' → R shown db') ∧
      ∀ fault, (k fault).Invisible K R P
  | send _ effect k => (∀ shown db, R shown db → R shown (effect db)) ∧ k.Invisible K R P

section Oblivious

theorem oblivious_bind {P' : β → Prop} {x : Txn Db Key Site Err β}
    {f : β → Txn Db Key Site Err α} (hx : x.Oblivious K R P')
    (hf : ∀ b, P' b → (f b).Oblivious K R P) : (x.bind f).Oblivious K R P := by
  induction x with
  | done b => exact hf b hx
  | fail e => trivial
  | select k ih =>
      refine ⟨fun db db' hR => ?_, fun db => ih db (hx.2 db)⟩
      simp only [hx.1 db db' hR]
  | selectForUpdate key k ih =>
      refine ⟨hx.1, fun db db' hR => ?_, fun db => ih db (hx.2.2 db)⟩
      simp only [hx.2.1 db db' hR]
  | commit site keys write k ih => exact ⟨hx.1, hx.2.1, fun fault => ih fault (hx.2.2 fault)⟩
  | send site effect k ih => exact ⟨hx.1, ih hx.2⟩

theorem oblivious_seq {x : Txn Db Key Site Err β} {f : β → Txn Db Key Site Err α}
    (hx : x.Oblivious K R fun _ => True) (hf : ∀ b, (f b).Oblivious K R P) :
    (x.bind f).Oblivious K R P :=
  oblivious_bind hx fun b _ => hf b

theorem oblivious_read {q : Db → α} (hq : ∀ db db', R db db' → q db' = q db)
    (hP : ∀ db, P (q db)) : (read q : Txn Db Key Site Err α).Oblivious K R P :=
  ⟨fun db db' hR => congrArg done (hq db db' hR), hP⟩

theorem oblivious_lock {key : Key} {q : Db → α} (hkey : key ∈ K)
    (hq : ∀ db db', R db db' → q db' = q db) (hP : ∀ db, P (q db)) :
    (lock key q : Txn Db Key Site Err α).Oblivious K R P :=
  ⟨hkey, fun db db' hR => congrArg done (hq db db' hR), hP⟩

theorem oblivious_save {site : Site} {keys : List Key} {write : Db → Except Err Db}
    {P : Unit → Prop} (hkeys : ∀ key ∈ keys, key ∈ K)
    (hwrite : ∀ db db', R db db' → Agree R (write db) (write db')) (hP : P ()) :
    (save site keys write : Txn Db Key Site Err Unit).Oblivious K R P := by
  refine ⟨hkeys, hwrite, fun fault => ?_⟩
  cases fault with
  | none => exact hP
  | some e => trivial

theorem oblivious_tryCommit {site : Site} {keys : List Key} {write : Db → Except Err Db}
    {P : Option Err → Prop} (hkeys : ∀ key ∈ keys, key ∈ K)
    (hwrite : ∀ db db', R db db' → Agree R (write db) (write db')) (hP : ∀ fault, P fault) :
    (tryCommit site keys write : Txn Db Key Site Err (Option Err)).Oblivious K R P :=
  ⟨hkeys, hwrite, hP⟩

theorem oblivious_tell {site : Site} {effect : Db → Db} {P : Unit → Prop}
    (heffect : ∀ db db', R db db' → R (effect db) (effect db')) (hP : P ()) :
    (tell site effect : Txn Db Key Site Err Unit).Oblivious K R P :=
  ⟨heffect, hP⟩

end Oblivious

section Invisible

theorem invisible_bind {P' : β → Prop} {x : Txn Db Key Site Err β}
    {f : β → Txn Db Key Site Err α} (hx : x.Invisible K R P')
    (hf : ∀ b, P' b → (f b).Invisible K R P) : (x.bind f).Invisible K R P := by
  induction x with
  | done b => exact hf b hx
  | fail e => trivial
  | select k ih => exact fun shown db hR => ih db (hx shown db hR)
  | selectForUpdate key k ih => exact ⟨hx.1, fun shown db hR => ih db (hx.2 shown db hR)⟩
  | commit site keys write k ih => exact ⟨hx.1, fun fault => ih fault (hx.2 fault)⟩
  | send site effect k ih => exact ⟨hx.1, ih hx.2⟩

theorem invisible_seq {x : Txn Db Key Site Err β} {f : β → Txn Db Key Site Err α}
    (hx : x.Invisible K R fun _ => True) (hf : ∀ b, (f b).Invisible K R P) :
    (x.bind f).Invisible K R P :=
  invisible_bind hx fun b _ => hf b

theorem invisible_read {q : Db → α} (hP : ∀ shown db, R shown db → P (q db)) :
    (read q : Txn Db Key Site Err α).Invisible K R P :=
  hP

theorem invisible_lock {key : Key} {q : Db → α} (hkey : key ∉ K)
    (hP : ∀ shown db, R shown db → P (q db)) :
    (lock key q : Txn Db Key Site Err α).Invisible K R P :=
  ⟨hkey, hP⟩

theorem invisible_save {site : Site} {keys : List Key} {write : Db → Except Err Db}
    {P : Unit → Prop} (hwrite : ∀ shown db db', R shown db → write db = .ok db' → R shown db')
    (hP : P ()) : (save site keys write : Txn Db Key Site Err Unit).Invisible K R P := by
  refine ⟨hwrite, fun fault => ?_⟩
  cases fault with
  | none => exact hP
  | some e => trivial

end Invisible

end Txn

namespace Interleaving

open Txn

variable {ι Db Key Site Err α Time : Type} {low : Set ι} {K : Set Key} {R T : Db → Db → Prop}
  {c c' d d' : Config ι Db Key Site Err α}

-- What the threads that are shown do in one run is what they do in the other, without the rest.
structure Hides (low : Set ι) (K : Set Key) (T R : Db → Db → Prop)
    (c c' : Config ι Db Key Site Err α) : Prop where
  prog : ∀ i ∈ low, c'.prog i = c.prog i
  oblivious : ∀ i ∈ low, (c.prog i).Oblivious K T fun _ => True
  invisible : ∀ i ∉ low, (c'.prog i).Invisible K R fun _ => True
  owner : ∀ key ∈ K, c'.owner key = c.owner key
  holder : ∀ key ∈ K, ∀ i ∉ low, c'.owner key ≠ some i

theorem hides_start {db : Db} {prog : ι → Txn Db Key Site Err α}
    (hlow : ∀ i ∈ low, (prog i).Oblivious K T fun _ => True)
    (hhigh : ∀ i ∉ low, (prog i).Invisible K R fun _ => True) :
    Hides low K T R (start db prog) (start db prog) where
  prog _ _ := rfl
  oblivious := hlow
  invisible := hhigh
  owner _ _ := rfl
  holder _ _ _ _ h := by cases h

variable [DecidableEq ι] [DecidableEq Key]

def Config.at (tick : Time → Db → Db) (t : Time) (c : Config ι Db Key Site Err α) :
    Config ι Db Key Site Err α :=
  { c with db := tick t c.db }

-- The threads take these steps, each at its own time.
def Config.scheduleAt (tick : Time → Db → Db) (c : Config ι Db Key Site Err α) :
    List (ι × Time) → Option (Config ι Db Key Site Err α)
  | [] => some c
  | (i, t) :: steps => ((c.at tick t).step? i).bind fun c' => c'.scheduleAt tick steps

section Steps

variable {i : ι} {prog : Txn Db Key Site Err α}

omit [DecidableEq Key] in
theorem Hides.low_update {db db' : Db} {owner owner' : Key → Option ι} {log log' : List (ι × Site)}
    (h : Hides low K T R c c') (hi : i ∈ low) (hprog : prog.Oblivious K T fun _ => True)
    (howner : ∀ key ∈ K, owner' key = owner key)
    (hholder : ∀ key ∈ K, ∀ j ∉ low, owner' key ≠ some j) :
    Hides low K T R ⟨db, owner, Function.update c.prog i prog, log⟩
      ⟨db', owner', Function.update c'.prog i prog, log'⟩ := by
  constructor
  · intro j hj
    by_cases hji : j = i
    · subst hji
      simp
    · simp [hji, h.prog j hj]
  · intro j hj
    by_cases hji : j = i
    · subst hji
      simpa using hprog
    · simpa [hji] using h.oblivious j hj
  · intro j hj
    have hji : j ≠ i := by
      rintro rfl
      exact hj hi
    simpa [hji] using h.invisible j hj
  · exact howner
  · exact hholder

omit [DecidableEq Key] in
theorem Hides.high_update {db' : Db} {owner' : Key → Option ι} {log' : List (ι × Site)}
    (h : Hides low K T R c c') (hi : i ∉ low) (hprog : prog.Invisible K R fun _ => True)
    (howner : ∀ key ∈ K, owner' key = c'.owner key) :
    Hides low K T R c ⟨db', owner', Function.update c'.prog i prog, log'⟩ := by
  constructor
  · intro j hj
    have hji : j ≠ i := by
      rintro rfl
      exact hi hj
    simpa [hji] using h.prog j hj
  · exact h.oblivious
  · intro j hj
    by_cases hji : j = i
    · subst hji
      simpa using hprog
    · simpa [hji] using h.invisible j hj
  · intro key hkey
    exact (howner key hkey).trans (h.owner key hkey)
  · intro key hkey j hj hheld
    exact h.holder key hkey j hj ((howner key hkey).symm.trans hheld)

omit [DecidableEq Key] in
theorem Hides.release_low (h : Hides low K T R c c') (i : ι) (key : Key) (hkey : key ∈ K) :
    release c'.owner i key = release c.owner i key := by
  simp only [release, h.owner key hkey]

omit [DecidableEq Key] in
theorem Hides.holder_release (h : Hides low K T R c c') (i : ι) (key : Key) (hkey : key ∈ K)
    (j : ι) (hj : j ∉ low) : release c'.owner i key ≠ some j := by
  unfold release
  split
  · simp
  · exact h.holder key hkey j hj

omit [DecidableEq Key] in
theorem Hides.release_high (h : Hides low K T R c c') (hi : i ∉ low) (key : Key) (hkey : key ∈ K) :
    release c'.owner i key = c'.owner key :=
  if_neg (h.holder key hkey i hi)

omit [DecidableEq ι] [DecidableEq Key] in
theorem Hides.free_iff (h : Hides low K T R c c') {key : Key} (hkey : key ∈ K) :
    c'.free i key ↔ c.free i key := by
  simp only [Config.free, h.owner key hkey]

theorem Hides.low_step (h : Hides low K T R c c') (hT : T c.db c'.db) (hi : i ∈ low)
    (hstep : c'.step? i = some d') :
    ∃ d, c.step? i = some d ∧ Hides low K T R d d' ∧ T d.db d'.db := by
  have hprog := h.prog i hi
  have hoblivious := h.oblivious i hi
  have hreleased : Hides low K T R { c with owner := release c.owner i }
      { c' with owner := release c'.owner i } :=
    ⟨h.prog, h.oblivious, h.invisible, h.release_low i, h.holder_release i⟩
  unfold Config.step? at hstep ⊢
  rw [hprog] at hstep
  cases hp : c.prog i with
  | done a =>
      rw [hp] at hstep
      obtain rfl := Option.some.inj hstep
      exact ⟨_, rfl, hreleased, hT⟩
  | fail e =>
      rw [hp] at hstep
      obtain rfl := Option.some.inj hstep
      exact ⟨_, rfl, hreleased, hT⟩
  | select k =>
      rw [hp] at hstep hoblivious
      obtain rfl := Option.some.inj hstep
      rw [hoblivious.1 _ _ hT]
      exact ⟨_, rfl, h.low_update hi (hoblivious.2 c.db) h.owner h.holder, hT⟩
  | selectForUpdate key k =>
      rw [hp] at hstep hoblivious
      obtain ⟨hkey, hread, hk⟩ := hoblivious
      simp only [Option.ite_none_right_eq_some, Option.some.injEq] at hstep
      obtain ⟨hfree, rfl⟩ := hstep
      rw [hread _ _ hT]
      refine ⟨_, if_pos ((h.free_iff hkey).mp hfree), h.low_update hi (hk c.db) ?_ ?_, hT⟩
      · intro key' hkey'
        by_cases heq : key' = key <;> simp [heq, h.owner key' hkey']
      · intro key' hkey' j hj
        have hji : i ≠ j := by
          rintro rfl
          exact hj hi
        by_cases heq : key' = key
        · simp [heq, hji]
        · simpa [heq] using h.holder key' hkey' j hj
  | commit site keys write k =>
      rw [hp] at hstep hoblivious
      obtain ⟨hkeys, hagree, hk⟩ := hoblivious
      simp only [Option.ite_none_right_eq_some] at hstep
      obtain ⟨hfree, hstep⟩ := hstep
      have hfree' : ∀ key ∈ keys, c.free i key := fun key hkey =>
        (h.free_iff (hkeys key hkey)).mp (hfree key hkey)
      have hwrite := hagree _ _ hT
      cases hw : write c.db with
      | ok db =>
          cases hw' : write c'.db with
          | ok db' =>
              rw [hw, hw'] at hwrite
              rw [hw'] at hstep
              obtain rfl := Option.some.inj hstep
              refine ⟨⟨db, release c.owner i, Function.update c.prog i (k none),
                c.log ++ [(i, site)]⟩, ?_, h.low_update hi (hk none) (h.release_low i)
                  (h.holder_release i), hwrite⟩
              simp only [if_pos hfree', hw]
          | error e' =>
              rw [hw, hw'] at hwrite
              exact hwrite.elim
      | error e =>
          cases hw' : write c'.db with
          | ok db' =>
              rw [hw, hw'] at hwrite
              exact hwrite.elim
          | error e' =>
              rw [hw, hw'] at hwrite
              rw [hw'] at hstep
              obtain rfl : e = e' := hwrite
              obtain rfl := Option.some.inj hstep
              refine ⟨{ c with
                owner := release c.owner i
                prog := Function.update c.prog i (k (some e)) }, ?_, h.low_update hi (hk (some e))
                  (h.release_low i) (h.holder_release i), hT⟩
              simp only [if_pos hfree', hw]
  | send site effect k =>
      rw [hp] at hstep hoblivious
      obtain rfl := Option.some.inj hstep
      exact ⟨_, rfl, h.low_update hi hoblivious.2 h.owner h.holder, hoblivious.1 _ _ hT⟩

theorem Hides.high_step (h : Hides low K T R c c') (hR : R c.db c'.db) (hi : i ∉ low)
    (hstep : c'.step? i = some d') : Hides low K T R c d' ∧ R c.db d'.db := by
  have hinvisible := h.invisible i hi
  have hreleased : Hides low K T R c { c' with owner := release c'.owner i } := by
    refine ⟨h.prog, h.oblivious, h.invisible, fun key hkey => ?_, h.holder_release i⟩
    exact (h.release_high hi key hkey).trans (h.owner key hkey)
  unfold Config.step? at hstep
  cases hp : c'.prog i with
  | done a =>
      rw [hp] at hstep
      obtain rfl := Option.some.inj hstep
      exact ⟨hreleased, hR⟩
  | fail e =>
      rw [hp] at hstep
      obtain rfl := Option.some.inj hstep
      exact ⟨hreleased, hR⟩
  | select k =>
      rw [hp] at hstep hinvisible
      obtain rfl := Option.some.inj hstep
      exact ⟨h.high_update hi (hinvisible _ _ hR) fun _ _ => rfl, hR⟩
  | selectForUpdate key k =>
      rw [hp] at hstep hinvisible
      simp only [Option.ite_none_right_eq_some, Option.some.injEq] at hstep
      obtain ⟨-, rfl⟩ := hstep
      refine ⟨h.high_update hi (hinvisible.2 _ _ hR) fun key' hkey' => ?_, hR⟩
      have hne : key' ≠ key := by
        rintro rfl
        exact hinvisible.1 hkey'
      simp [hne]
  | commit site keys write k =>
      rw [hp] at hstep hinvisible
      simp only [Option.ite_none_right_eq_some] at hstep
      obtain ⟨-, hstep⟩ := hstep
      cases hw : write c'.db with
      | ok db' =>
          rw [hw] at hstep
          obtain rfl := Option.some.inj hstep
          exact ⟨h.high_update hi (hinvisible.2 none) (h.release_high hi),
            hinvisible.1 _ _ _ hR hw⟩
      | error e =>
          rw [hw] at hstep
          obtain rfl := Option.some.inj hstep
          exact ⟨h.high_update hi (hinvisible.2 (some e)) (h.release_high hi), hR⟩
  | send site effect k =>
      rw [hp] at hstep hinvisible
      obtain rfl := Option.some.inj hstep
      exact ⟨h.high_update hi hinvisible.2 fun _ _ => rfl, hinvisible.1 _ _ hR⟩

end Steps

-- Without the steps of the others, those of the threads that are shown lead to the same.
theorem Hides.scheduleAt {tick : Time → Db → Db} {low : ι → Bool} {steps : List (ι × Time)}
    (h : Hides {i | low i = true} K T R c c') (hR : R c.db c'.db)
    (hlow : ∀ t db db', R db db' → T (tick t db) (tick t db')) (hT : ∀ db db', T db db' → R db db')
    (hhigh : ∀ t db db', R db db' → R db (tick t db')) (hrun : d' ∈ c'.scheduleAt tick steps) :
    ∃ d ∈ c.scheduleAt tick (steps.filter fun step => low step.1),
      Hides {i | low i = true} K T R d d' ∧ R d.db d'.db := by
  induction steps generalizing c c' with
  | nil =>
      obtain rfl := Option.some.inj hrun
      exact ⟨c, rfl, h, hR⟩
  | cons step steps ih =>
      obtain ⟨i, t⟩ := step
      obtain ⟨c1', hstep, hrest⟩ := Option.bind_eq_some_iff.mp hrun
      cases hi : low i with
      | true =>
          have hat : Hides {i | low i = true} K T R (c.at tick t) (c'.at tick t) :=
            ⟨h.prog, h.oblivious, h.invisible, h.owner, h.holder⟩
          obtain ⟨c1, hstep1, h1, hT1⟩ := hat.low_step (hlow t _ _ hR) hi hstep
          obtain ⟨d, hd, hafter⟩ := ih h1 (hT _ _ hT1) hrest
          refine ⟨d, ?_, hafter⟩
          simp only [List.filter_cons, hi, if_true]
          exact Option.bind_eq_some_iff.mpr ⟨c1, hstep1, hd⟩
      | false =>
          have hat : Hides {i | low i = true} K T R c (c'.at tick t) :=
            ⟨h.prog, h.oblivious, h.invisible, h.owner, h.holder⟩
          have hnot : i ∉ {i | low i = true} := by simp [hi]
          obtain ⟨h1, hR1⟩ := hat.high_step (hhigh t _ _ hR) hnot hstep
          obtain ⟨d, hd, hafter⟩ := ih h1 hR1 hrest
          refine ⟨d, ?_, hafter⟩
          simpa only [List.filter_cons, hi, Bool.false_eq_true, if_false] using hd

end Interleaving
