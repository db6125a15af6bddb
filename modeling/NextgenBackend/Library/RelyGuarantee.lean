import Mathlib
import NextgenBackend.Library.Txn

namespace RelyGuarantee

open Txn

variable {Db Key Site Err α β : Type}

structure Discipline (Db Key Site : Type) where
  inv : Db → Prop
  rely : Set Key → Db → Db → Prop
  guar : Set Key → Db → Db → Prop
  admits : Site → Db → Prop
  rely_refl : ∀ L db, rely L db db
  rely_trans : ∀ L a b c, rely L a b → rely L b c → rely L a c
  rely_anti : ∀ L L' a b, L ⊆ L' → rely L' a b → rely L a b
  guar_inv : ∀ L a b, inv a → guar L a b → inv b
  guar_rely : ∀ L L' a b, Disjoint L L' → inv a → guar L a b → rely L' a b

def Discipline.Respects (D : Discipline Db Key Site) (env : Db → Db → Prop) : Prop :=
  ∀ a b, D.inv a → env a b → D.inv b ∧ ∀ L, D.rely L a b

def Safe (D : Discipline Db Key Site) :
    Set Key → Db → Txn Db Key Site Err α → (Except Err α → Set Key → Db → Prop) → Prop
  | L, db, .done a, Q => Q (.ok a) L db
  | L, db, .fail e, Q => Q (.error e) L db
  | L, db, .select k, Q =>
      ∀ db', D.inv db' → D.rely L db db' → Safe D L db' (k db') Q
  | L, db, .selectForUpdate key k, Q =>
      ∀ db', D.inv db' → D.rely L db db' → Safe D (insert key L) db' (k db') Q
  | L, db, .commit site keys write k, Q =>
      ∀ db', D.inv db' → D.rely L db db' → D.admits site db' →
        (∀ db'', write db' = .ok db'' →
          D.guar (L ∪ {key | key ∈ keys}) db' db'' ∧ Safe D ∅ db'' (k none) Q) ∧
        ∀ e, write db' = .error e → Safe D ∅ db' (k (some e)) Q
  | L, db, .send site effect k, Q =>
      ∀ db', D.inv db' → D.rely L db db' → D.admits site db' →
        D.guar L db' (effect db') ∧ Safe D L (effect db') k Q

-- Each commit is, besides, one of those that its site stands for.
def Traces (D : Discipline Db Key Site) (G : Site → Db → Db → Prop) :
    Set Key → Db → Txn Db Key Site Err α → (Except Err α → Set Key → Db → Prop) → Prop
  | L, db, .done a, Q => Q (.ok a) L db
  | L, db, .fail e, Q => Q (.error e) L db
  | L, db, .select k, Q =>
      ∀ db', D.inv db' → D.rely L db db' → Traces D G L db' (k db') Q
  | L, db, .selectForUpdate key k, Q =>
      ∀ db', D.inv db' → D.rely L db db' → Traces D G (insert key L) db' (k db') Q
  | L, db, .commit site keys write k, Q =>
      ∀ db', D.inv db' → D.rely L db db' → D.admits site db' →
        (∀ db'', write db' = .ok db'' →
          (D.guar (L ∪ {key | key ∈ keys}) db' db'' ∧ G site db' db'') ∧
            Traces D G ∅ db'' (k none) Q) ∧
        ∀ e, write db' = .error e → Traces D G ∅ db' (k (some e)) Q
  | L, db, .send site effect k, Q =>
      ∀ db', D.inv db' → D.rely L db db' → D.admits site db' →
        (D.guar L db' (effect db') ∧ G site db' (effect db')) ∧ Traces D G L (effect db') k Q

variable {D : Discipline Db Key Site} {G : Site → Db → Db → Prop} {L : Set Key} {db : Db}

theorem safe_iff_traces {x : Txn Db Key Site Err α} {Q : Except Err α → Set Key → Db → Prop} :
    Safe D L db x Q ↔ Traces D (fun _ _ _ => True) L db x Q := by
  induction x generalizing L db with
  | done a => rfl
  | fail e => rfl
  | select k ih => exact forall₃_congr fun db' _ _ => ih db'
  | selectForUpdate key k ih => exact forall₃_congr fun db' _ _ => ih db'
  | commit site keys write k ih =>
      exact forall₄_congr fun db' _ _ _ =>
        and_congr (forall₂_congr fun _ _ => and_congr (and_iff_left trivial).symm (ih none))
          (forall₂_congr fun e _ => ih (some e))
  | send site effect k ih =>
      exact forall₄_congr fun _ _ _ _ => and_congr (and_iff_left trivial).symm ih

theorem Traces.mono {x : Txn Db Key Site Err α} {Q Q' : Except Err α → Set Key → Db → Prop}
    (h : Traces D G L db x Q) (hQ : ∀ r L db, Q r L db → Q' r L db) : Traces D G L db x Q' := by
  induction x generalizing L db with
  | done a => exact hQ _ _ _ h
  | fail e => exact hQ _ _ _ h
  | select k ih => exact fun db' hi hr => ih db' (h db' hi hr)
  | selectForUpdate key k ih => exact fun db' hi hr => ih db' (h db' hi hr)
  | commit site keys write k ih =>
      intro db' hi hr ha
      obtain ⟨hok, herr⟩ := h db' hi hr ha
      exact ⟨fun db'' hw => ⟨(hok db'' hw).1, ih none (hok db'' hw).2⟩,
        fun e hw => ih (some e) (herr e hw)⟩
  | send site effect k ih =>
      intro db' hi hr ha
      exact ⟨(h db' hi hr ha).1, ih (h db' hi hr ha).2⟩

theorem traces_bind {x : Txn Db Key Site Err β} {f : β → Txn Db Key Site Err α}
    {Q : Except Err α → Set Key → Db → Prop} :
    Traces D G L db (x.bind f) Q ↔ Traces D G L db x fun r L' db' =>
      match r with
      | .ok a => Traces D G L' db' (f a) Q
      | .error e => Q (.error e) L' db' := by
  induction x generalizing L db with
  | done a => rfl
  | fail e => rfl
  | select k ih => exact forall₃_congr fun db' _ _ => ih db'
  | selectForUpdate key k ih => exact forall₃_congr fun db' _ _ => ih db'
  | commit site keys write k ih =>
      exact forall₄_congr fun db' _ _ _ =>
        and_congr (forall₂_congr fun _ _ => and_congr_right fun _ => ih none)
          (forall₂_congr fun e _ => ih (some e))
  | send site effect k ih => exact forall₄_congr fun _ _ _ _ => and_congr_right fun _ => ih

theorem traces_attempt {x : Txn Db Key Site Err β}
    {Q : Except Err (Except Err β) → Set Key → Db → Prop} :
    Traces D G L db x.attempt Q ↔ Traces D G L db x fun r L' db' => Q (.ok r) L' db' := by
  induction x generalizing L db with
  | done a => rfl
  | fail e => rfl
  | select k ih => exact forall₃_congr fun db' _ _ => ih db'
  | selectForUpdate key k ih => exact forall₃_congr fun db' _ _ => ih db'
  | commit site keys write k ih =>
      exact forall₄_congr fun db' _ _ _ =>
        and_congr (forall₂_congr fun _ _ => and_congr_right fun _ => ih none)
          (forall₂_congr fun e _ => ih (some e))
  | send site effect k ih => exact forall₄_congr fun _ _ _ _ => and_congr_right fun _ => ih

theorem traces_crashAfter {e : Err} {n : Nat} {x : Txn Db Key Site Err α}
    {Q : Except Err α → Set Key → Db → Prop} (h : Traces D G L db x Q)
    (hfail : ∀ L db, Q (.error e) L db) : Traces D G L db (x.crashAfter e n) Q := by
  induction x generalizing L db n with
  | done a => cases n <;> first | exact hfail _ _ | exact h
  | fail e' => cases n <;> first | exact hfail _ _ | exact h
  | select k ih =>
      cases n with
      | zero => exact hfail _ _
      | succ n => exact fun db' hi hr => ih db' (h db' hi hr)
  | selectForUpdate key k ih =>
      cases n with
      | zero => exact hfail _ _
      | succ n => exact fun db' hi hr => ih db' (h db' hi hr)
  | commit site keys write k ih =>
      cases n with
      | zero => exact hfail _ _
      | succ n =>
          intro db' hi hr ha
          obtain ⟨hok, herr⟩ := h db' hi hr ha
          exact ⟨fun db'' hw => ⟨(hok db'' hw).1, ih none (hok db'' hw).2⟩,
            fun e hw => ih (some e) (herr e hw)⟩
  | send site effect k ih =>
      cases n with
      | zero => exact hfail _ _
      | succ n =>
          intro db' hi hr ha
          exact ⟨(h db' hi hr ha).1, ih (h db' hi hr ha).2⟩

theorem traces_of_readOnly {x : Txn Db Key Site Err α} {R : α → Prop} (h : x.ReadOnly R) :
    Traces D G L db x fun r L' db' =>
      L ⊆ L' ∧ D.rely L db db' ∧ ∀ a, r = .ok a → R a := by
  induction x generalizing L db with
  | done a =>
      refine ⟨subset_rfl, D.rely_refl _ _, fun a' ha => ?_⟩
      obtain rfl := Except.ok.inj ha
      exact h
  | fail e => exact ⟨subset_rfl, D.rely_refl _ _, fun a' ha => by cases ha⟩
  | select k ih =>
      intro db' _ hr
      refine (ih db' (h db')).mono fun r L' db'' hQ => ?_
      exact ⟨hQ.1, D.rely_trans _ _ _ _ hr hQ.2.1, hQ.2.2⟩
  | selectForUpdate key k ih =>
      intro db' _ hr
      refine (ih db' (h db')).mono fun r L' db'' hQ => ?_
      have hsub : L ⊆ L' := (Set.subset_insert key L).trans hQ.1
      have hrely : D.rely L db' db'' := D.rely_anti _ _ _ _ (Set.subset_insert key L) hQ.2.1
      exact ⟨hsub, D.rely_trans _ _ _ _ hr hrely, hQ.2.2⟩
  | commit site keys write k ih => exact h.1.elim
  | send site effect k ih => exact h.1.elim

theorem traces_seq {x : Txn Db Key Site Err β} {f : β → Txn Db Key Site Err α} {R : β → Prop}
    {Q : Except Err α → Set Key → Db → Prop} (hx : x.ReadOnly R)
    (hok : ∀ b L' db', R b → L ⊆ L' → D.rely L db db' → Traces D G L' db' (f b) Q)
    (herr : ∀ e L' db', L ⊆ L' → D.rely L db db' → Q (.error e) L' db') :
    Traces D G L db (x.bind f) Q := by
  refine traces_bind.mpr ((traces_of_readOnly hx).mono fun r L' db' h => ?_)
  obtain ⟨hsub, hrely, hR⟩ := h
  cases r with
  | ok b => exact hok b L' db' (hR b rfl) hsub hrely
  | error e => exact herr e L' db' hsub hrely

theorem traces_save {site : Site} {keys : List Key} {write : Db → Except Err Db}
    {Q : Except Err Unit → Set Key → Db → Prop} :
    Traces D G L db (save site keys write : Txn Db Key Site Err Unit) Q ↔
      ∀ db', D.inv db' → D.rely L db db' → D.admits site db' →
        (∀ db'', write db' = .ok db'' →
          (D.guar (L ∪ {key | key ∈ keys}) db' db'' ∧ G site db' db'') ∧ Q (.ok ()) ∅ db'') ∧
        ∀ e, write db' = .error e → Q (.error e) ∅ db' := Iff.rfl

theorem traces_tell {site : Site} {effect : Db → Db} {Q : Except Err Unit → Set Key → Db → Prop} :
    Traces D G L db (tell site effect : Txn Db Key Site Err Unit) Q ↔
      ∀ db', D.inv db' → D.rely L db db' → D.admits site db' →
        (D.guar L db' (effect db') ∧ G site db' (effect db')) ∧ Q (.ok ()) L (effect db') := Iff.rfl

theorem traces_tryCommit {site : Site} {keys : List Key} {write : Db → Except Err Db}
    {Q : Except Err (Option Err) → Set Key → Db → Prop} :
    Traces D G L db (tryCommit site keys write : Txn Db Key Site Err (Option Err)) Q ↔
      ∀ db', D.inv db' → D.rely L db db' → D.admits site db' →
        (∀ db'', write db' = .ok db'' →
          (D.guar (L ∪ {key | key ∈ keys}) db' db'' ∧ G site db' db'') ∧ Q (.ok none) ∅ db'') ∧
        ∀ e, write db' = .error e → Q (.ok (some e)) ∅ db' := Iff.rfl

def Complies (D : Discipline Db Key Site) (G : Site → Db → Db → Prop) (x : Txn Db Key Site Err α) :
    Prop :=
  ∀ L db, Traces D G L db x fun _ _ _ => True

section Complies

variable {x : Txn Db Key Site Err β} {f : β → Txn Db Key Site Err α}

theorem complies_done (a : α) : Complies D G (.done a : Txn Db Key Site Err α) :=
  fun _ _ => trivial

theorem complies_fail (e : Err) : Complies D G (.fail e : Txn Db Key Site Err α) :=
  fun _ _ => trivial

theorem complies_bind (hx : Complies D G x) (hf : ∀ b, Complies D G (f b)) : Complies D G (x.bind f) := by
  intro L db
  apply traces_bind.mpr
  apply (hx L db).mono
  intro r L' db' _
  cases r with
  | ok b => exact hf b L' db'
  | error e => trivial

theorem complies_readOnly {R : β → Prop} (hx : x.ReadOnly R) : Complies D G x :=
  fun _ _ => (traces_of_readOnly hx).mono fun _ _ _ _ => trivial

theorem traces_then {R : β → Prop} (hx : x.ReadOnly R)
    (hf : ∀ b L' db', R b → L ⊆ L' → D.rely L db db' →
      Traces D G L' db' (f b) fun _ _ _ => True) :
    Traces D G L db (x.bind f) fun _ _ _ => True :=
  traces_seq hx hf fun _ _ _ _ _ => trivial

theorem complies_seq {R : β → Prop} (hx : x.ReadOnly R) (hf : ∀ b, R b → Complies D G (f b)) :
    Complies D G (x.bind f) :=
  fun _ _ => traces_then hx fun b L' db' hb _ _ => hf b hb L' db'

theorem complies_save {site : Site} {keys : List Key} {write : Db → Except Err Db}
    (h : ∀ L db db', D.inv db → D.admits site db → write db = .ok db' →
      D.guar (L ∪ {key | key ∈ keys}) db db' ∧ G site db db') :
    Complies D G (save site keys write : Txn Db Key Site Err Unit) :=
  fun L _ => traces_save.mpr fun db' hinv _ hadmits =>
    ⟨fun db'' hwrite => ⟨h L db' db'' hinv hadmits hwrite, trivial⟩, fun _ _ => trivial⟩

end Complies

theorem Safe.mono {x : Txn Db Key Site Err α} {Q Q' : Except Err α → Set Key → Db → Prop}
    (h : Safe D L db x Q) (hQ : ∀ r L db, Q r L db → Q' r L db) : Safe D L db x Q' :=
  safe_iff_traces.mpr ((safe_iff_traces.mp h).mono hQ)

theorem Safe.and {x : Txn Db Key Site Err α} {Q Q' : Except Err α → Set Key → Db → Prop}
    (h : Safe D L db x Q) (h' : Safe D L db x Q') :
    Safe D L db x fun r L db => Q r L db ∧ Q' r L db := by
  induction x generalizing L db with
  | done a => exact ⟨h, h'⟩
  | fail e => exact ⟨h, h'⟩
  | select k ih => exact fun db' hi hr => ih db' (h db' hi hr) (h' db' hi hr)
  | selectForUpdate key k ih => exact fun db' hi hr => ih db' (h db' hi hr) (h' db' hi hr)
  | commit site keys write k ih =>
      intro db' hi hr ha
      obtain ⟨hok, herr⟩ := h db' hi hr ha
      obtain ⟨hok', herr'⟩ := h' db' hi hr ha
      exact ⟨fun db'' hw => ⟨(hok db'' hw).1, ih none (hok db'' hw).2 (hok' db'' hw).2⟩,
        fun e hw => ih (some e) (herr e hw) (herr' e hw)⟩
  | send site effect k ih =>
      intro db' hi hr ha
      exact ⟨(h db' hi hr ha).1, ih (h db' hi hr ha).2 (h' db' hi hr ha).2⟩

theorem safe_bind {x : Txn Db Key Site Err β} {f : β → Txn Db Key Site Err α}
    {Q : Except Err α → Set Key → Db → Prop} :
    Safe D L db (x.bind f) Q ↔ Safe D L db x fun r L' db' =>
      match r with
      | .ok a => Safe D L' db' (f a) Q
      | .error e => Q (.error e) L' db' := by
  simp only [safe_iff_traces, traces_bind]

theorem safe_lock {key : Key} {q : Db → α} {Q : Except Err α → Set Key → Db → Prop} :
    Safe D L db (lock key q : Txn Db Key Site Err α) Q ↔
      ∀ db', D.inv db' → D.rely L db db' → Q (.ok (q db')) (insert key L) db' := Iff.rfl

@[simp]
theorem safe_done {a : α} {Q : Except Err α → Set Key → Db → Prop} :
    Safe D L db (done a : Txn Db Key Site Err α) Q ↔ Q (.ok a) L db := Iff.rfl

@[simp]
theorem safe_fail {e : Err} {Q : Except Err α → Set Key → Db → Prop} :
    Safe D L db (fail e : Txn Db Key Site Err α) Q ↔ Q (.error e) L db := Iff.rfl

theorem safe_require {p : Prop} [Decidable p] {e : Err}
    {Q : Except Err Unit → Set Key → Db → Prop} :
    Safe D L db (require p e : Txn Db Key Site Err Unit) Q ↔
      (p → Q (.ok ()) L db) ∧ (¬ p → Q (.error e) L db) := by
  unfold require
  split <;> simp_all

theorem safe_orFail {o : Option α} {e : Err} {Q : Except Err α → Set Key → Db → Prop} :
    Safe D L db (orFail e o : Txn Db Key Site Err α) Q ↔
      (∀ a, o = some a → Q (.ok a) L db) ∧ (o = none → Q (.error e) L db) := by
  cases o <;> simp [orFail]

theorem safe_tryCommit {site : Site} {keys : List Key} {write : Db → Except Err Db}
    {Q : Except Err (Option Err) → Set Key → Db → Prop} :
    Safe D L db (tryCommit site keys write : Txn Db Key Site Err (Option Err)) Q ↔
      ∀ db', D.inv db' → D.rely L db db' → D.admits site db' →
        (∀ db'', write db' = .ok db'' →
          D.guar (L ∪ {key | key ∈ keys}) db' db'' ∧ Q (.ok none) ∅ db'') ∧
        ∀ e, write db' = .error e → Q (.ok (some e)) ∅ db' := Iff.rfl

theorem safe_save {site : Site} {keys : List Key} {write : Db → Except Err Db}
    {Q : Except Err Unit → Set Key → Db → Prop} :
    Safe D L db (save site keys write : Txn Db Key Site Err Unit) Q ↔
      ∀ db', D.inv db' → D.rely L db db' → D.admits site db' →
        (∀ db'', write db' = .ok db'' →
          D.guar (L ∪ {key | key ∈ keys}) db' db'' ∧ Q (.ok ()) ∅ db'') ∧
        ∀ e, write db' = .error e → Q (.error e) ∅ db' := Iff.rfl

theorem safe_attempt {x : Txn Db Key Site Err β}
    {Q : Except Err (Except Err β) → Set Key → Db → Prop} :
    Safe D L db x.attempt Q ↔ Safe D L db x fun r L' db' => Q (.ok r) L' db' := by
  simp only [safe_iff_traces, traces_attempt]

theorem safe_of_conforms {x : Txn Db Key Site Err α} {R : α → Prop}
    (h : x.Conforms (fun site keys write => ∀ L db db', D.inv db → D.admits site db →
      write db = .ok db' → D.guar (L ∪ {key | key ∈ keys}) db db') R) :
    Safe D L db x fun r _ _ => ∀ a, r = .ok a → R a := by
  induction x generalizing L db with
  | done a =>
      intro a' ha
      obtain rfl := Except.ok.inj ha
      exact h
  | fail e => exact fun a' ha => by cases ha
  | select k ih => exact fun db' _ _ => ih db' (h db')
  | selectForUpdate key k ih => exact fun db' _ _ => ih db' (h db')
  | commit site keys write k ih =>
      exact fun db' hi _ ha => ⟨fun db'' hw => ⟨h.1 L db' db'' hi ha hw, ih none (h.2 none)⟩,
        fun e _ => ih (some e) (h.2 (some e))⟩
  | send site effect k ih =>
      intro db' hi _ ha
      have hsame : L ∪ {key | key ∈ ([] : List Key)} = L := by simp
      exact ⟨hsame ▸ h.1 L db' (effect db') hi ha rfl, ih h.2⟩

theorem safe_of_readOnly {x : Txn Db Key Site Err α} {R : α → Prop} (h : x.ReadOnly R) :
    Safe D L db x fun r L' db' =>
      L ⊆ L' ∧ D.rely L db db' ∧ ∀ a, r = .ok a → R a :=
  safe_iff_traces.mpr (traces_of_readOnly h)

theorem safe_seq {x : Txn Db Key Site Err β} {f : β → Txn Db Key Site Err α} {R : β → Prop}
    {Q : Except Err α → Set Key → Db → Prop} (hx : x.ReadOnly R)
    (hok : ∀ b L' db', R b → L ⊆ L' → D.rely L db db' → Safe D L' db' (f b) Q)
    (herr : ∀ e L' db', L ⊆ L' → D.rely L db db' → Q (.error e) L' db') :
    Safe D L db (x.bind f) Q := by
  refine safe_bind.mpr ((safe_of_readOnly hx).mono fun r L' db' h => ?_)
  obtain ⟨hsub, hrely, hR⟩ := h
  cases r with
  | ok b => exact hok b L' db' (hR b rfl) hsub hrely
  | error e => exact herr e L' db' hsub hrely

end RelyGuarantee
