import Mathlib

inductive Txn (Db Key Site Err α : Type) : Type where
  | done (a : α)
  | fail (e : Err)
  | select (k : Db → Txn Db Key Site Err α)
  | selectForUpdate (key : Key) (k : Db → Txn Db Key Site Err α)
  | commit (site : Site) (keys : List Key) (write : Db → Except Err Db)
      (k : Option Err → Txn Db Key Site Err α)
  | send (site : Site) (effect : Db → Db) (k : Txn Db Key Site Err α)

namespace Txn

variable {Db Key Site Err α β γ : Type}

def bind : Txn Db Key Site Err α → (α → Txn Db Key Site Err β) → Txn Db Key Site Err β
  | done a, f => f a
  | fail e, _ => fail e
  | select k, f => select fun db => (k db).bind f
  | selectForUpdate key k, f => selectForUpdate key fun db => (k db).bind f
  | commit site keys write k, f => commit site keys write fun fault => (k fault).bind f
  | send site effect k, f => send site effect (k.bind f)

instance : Monad (Txn Db Key Site Err) where
  pure := done
  bind := bind

theorem bind_done (x : Txn Db Key Site Err α) : x.bind done = x := by
  induction x with
  | done a => rfl
  | fail e => rfl
  | select k ih => exact congrArg select (funext ih)
  | selectForUpdate key k ih => exact congrArg (selectForUpdate key) (funext ih)
  | commit site keys write k ih => exact congrArg (commit site keys write) (funext ih)
  | send site effect k ih => exact congrArg (send site effect) ih

theorem bind_assoc (x : Txn Db Key Site Err α) (f : α → Txn Db Key Site Err β)
    (g : β → Txn Db Key Site Err γ) :
    (x.bind f).bind g = x.bind fun a => (f a).bind g := by
  induction x with
  | done a => rfl
  | fail e => rfl
  | select k ih => exact congrArg select (funext ih)
  | selectForUpdate key k ih => exact congrArg (selectForUpdate key) (funext ih)
  | commit site keys write k ih => exact congrArg (commit site keys write) (funext ih)
  | send site effect k ih => exact congrArg (send site effect) ih

instance : LawfulMonad (Txn Db Key Site Err) :=
  LawfulMonad.mk' _ bind_done (fun _ _ => rfl) bind_assoc

@[simp]
theorem pure_eq (a : α) : (pure a : Txn Db Key Site Err α) = done a := rfl

@[simp]
theorem bind_eq (x : Txn Db Key Site Err α) (f : α → Txn Db Key Site Err β) :
    x >>= f = x.bind f := rfl

def require (p : Prop) [Decidable p] (e : Err) : Txn Db Key Site Err Unit :=
  if p then done () else fail e

def orFail (e : Err) : Option α → Txn Db Key Site Err α
  | some a => done a
  | none => fail e

def read (q : Db → α) : Txn Db Key Site Err α :=
  select fun db => done (q db)

def lock (key : Key) (q : Db → α) : Txn Db Key Site Err α :=
  selectForUpdate key fun db => done (q db)

def tryCommit (site : Site) (keys : List Key) (write : Db → Except Err Db) :
    Txn Db Key Site Err (Option Err) :=
  commit site keys write done

def save (site : Site) (keys : List Key) (write : Db → Except Err Db) :
    Txn Db Key Site Err Unit :=
  commit site keys write fun
    | none => done ()
    | some e => fail e

-- An effect outside the transaction: it cannot fail, and the locks taken so far stay held.
def tell (site : Site) (effect : Db → Db) : Txn Db Key Site Err Unit :=
  send site effect (done ())

def attempt : Txn Db Key Site Err α → Txn Db Key Site Err (Except Err α)
  | done a => done (.ok a)
  | fail e => done (.error e)
  | select k => select fun db => (k db).attempt
  | selectForUpdate key k => selectForUpdate key fun db => (k db).attempt
  | commit site keys write k => commit site keys write fun fault => (k fault).attempt
  | send site effect k => send site effect k.attempt

-- The program of a process that dies after so many steps.
def crashAfter (e : Err) : Nat → Txn Db Key Site Err α → Txn Db Key Site Err α
  | 0, _ => fail e
  | _ + 1, done a => done a
  | _ + 1, fail e' => fail e'
  | n + 1, select k => select fun db => (k db).crashAfter e n
  | n + 1, selectForUpdate key k => selectForUpdate key fun db => (k db).crashAfter e n
  | n + 1, commit site keys write k => commit site keys write fun fault => (k fault).crashAfter e n
  | n + 1, send site effect k => send site effect (k.crashAfter e n)

def run : Txn Db Key Site Err α → Db → Except Err α × Db
  | done a, db => (.ok a, db)
  | fail e, db => (.error e, db)
  | select k, db => (k db).run db
  | selectForUpdate _ k, db => (k db).run db
  | commit _ _ write k, db =>
      match write db with
      | .ok db' => (k none).run db'
      | .error e => (k (some e)).run db
  | send _ effect k, db => k.run (effect db)

@[simp]
theorem run_done (a : α) (db : Db) :
    (done a : Txn Db Key Site Err α).run db = (.ok a, db) := rfl

@[simp]
theorem run_fail (e : Err) (db : Db) :
    (fail e : Txn Db Key Site Err α).run db = (.error e, db) := rfl

theorem run_commit (site : Site) (keys : List Key) (write : Db → Except Err Db)
    (k : Option Err → Txn Db Key Site Err α) (db : Db) :
    (commit site keys write k).run db =
      match write db with
      | .ok db' => (k none).run db'
      | .error e => (k (some e)).run db := by
  rw [run]

theorem bind_commit (site : Site) (keys : List Key) (write : Db → Except Err Db)
    (k : Option Err → Txn Db Key Site Err α) (f : α → Txn Db Key Site Err β) :
    (commit site keys write k).bind f = commit site keys write fun fault => (k fault).bind f := rfl

theorem attempt_commit (site : Site) (keys : List Key) (write : Db → Except Err Db)
    (k : Option Err → Txn Db Key Site Err α) :
    (commit site keys write k).attempt = commit site keys write fun fault => (k fault).attempt :=
  rfl

theorem run_bind (x : Txn Db Key Site Err α) (f : α → Txn Db Key Site Err β) (db : Db) :
    (x.bind f).run db =
      match x.run db with
      | (.ok a, db') => (f a).run db'
      | (.error e, db') => (.error e, db') := by
  induction x generalizing db with
  | done a => rfl
  | fail e => rfl
  | select k ih => exact ih db db
  | selectForUpdate key k ih => exact ih db db
  | commit site keys write k ih =>
      rw [bind_commit, run_commit, run_commit]
      cases write db with
      | ok db' => exact ih none db'
      | error e => exact ih (some e) db
  | send site effect k ih => exact ih (effect db)

@[simp]
theorem run_attempt (x : Txn Db Key Site Err α) (db : Db) :
    x.attempt.run db = (.ok (x.run db).1, (x.run db).2) := by
  induction x generalizing db with
  | done a => rfl
  | fail e => rfl
  | select k ih => exact ih db db
  | selectForUpdate key k ih => exact ih db db
  | commit site keys write k ih =>
      rw [attempt_commit, run_commit, run_commit]
      cases write db with
      | ok db' => exact ih none db'
      | error e => exact ih (some e) db
  | send site effect k ih => exact ih (effect db)

def Ensures (x : Txn Db Key Site Err α) (db : Db) (Q : Except Err α → Db → Prop) : Prop :=
  Q (x.run db).1 (x.run db).2

variable {Q : Except Err α → Db → Prop}

theorem Ensures.elim {x : Txn Db Key Site Err α} {db db' : Db} {r : Except Err α}
    (h : x.Ensures db Q) (hr : x.run db = (r, db')) : Q r db' := by
  simpa only [Ensures, hr] using h

theorem Ensures.mono {x : Txn Db Key Site Err α} {db : Db} {Q' : Except Err α → Db → Prop}
    (h : x.Ensures db Q) (hQ : ∀ r db', Q r db' → Q' r db') : x.Ensures db Q' :=
  hQ _ _ h

@[simp]
theorem ensures_done {a : α} {db : Db} :
    (done a : Txn Db Key Site Err α).Ensures db Q ↔ Q (.ok a) db := Iff.rfl

@[simp]
theorem ensures_fail {e : Err} {db : Db} :
    (fail e : Txn Db Key Site Err α).Ensures db Q ↔ Q (.error e) db := Iff.rfl

@[simp]
theorem ensures_select {k : Db → Txn Db Key Site Err α} {db : Db} :
    (select k).Ensures db Q ↔ (k db).Ensures db Q := Iff.rfl

@[simp]
theorem ensures_selectForUpdate {key : Key} {k : Db → Txn Db Key Site Err α} {db : Db} :
    (selectForUpdate key k).Ensures db Q ↔ (k db).Ensures db Q := Iff.rfl

@[simp]
theorem ensures_read {q : Db → α} {db : Db} :
    (read q : Txn Db Key Site Err α).Ensures db Q ↔ Q (.ok (q db)) db := Iff.rfl

@[simp]
theorem ensures_lock {key : Key} {q : Db → α} {db : Db} :
    (lock key q : Txn Db Key Site Err α).Ensures db Q ↔ Q (.ok (q db)) db := Iff.rfl

theorem ensures_bind {x : Txn Db Key Site Err β} {f : β → Txn Db Key Site Err α} {db : Db} :
    (x.bind f).Ensures db Q ↔ x.Ensures db fun r db' =>
      match r with
      | .ok a => (f a).Ensures db' Q
      | .error e => Q (.error e) db' := by
  unfold Ensures
  rw [run_bind]
  rcases x.run db with ⟨_ | _, _⟩ <;> rfl

theorem ensures_bind_run {x : Txn Db Key Site Err β} {f : β → Txn Db Key Site Err α} {b : β}
    {db db' : Db} (hrun : x.run db = (.ok b, db')) (hf : (f b).Ensures db' Q) :
    (x.bind f).Ensures db Q := by
  unfold Ensures
  rw [run_bind, hrun]
  exact hf

theorem ensures_require {p : Prop} [Decidable p] {e : Err} {db : Db}
    {Q : Except Err Unit → Db → Prop} :
    (require p e : Txn Db Key Site Err Unit).Ensures db Q ↔
      (p → Q (.ok ()) db) ∧ (¬ p → Q (.error e) db) := by
  unfold require
  split <;> simp_all

theorem ensures_orFail {o : Option α} {e : Err} {db : Db} :
    (orFail e o : Txn Db Key Site Err α).Ensures db Q ↔
      (∀ a, o = some a → Q (.ok a) db) ∧ (o = none → Q (.error e) db) := by
  cases o <;> simp [orFail]

theorem ensures_tryCommit {site : Site} {keys : List Key} {write : Db → Except Err Db} {db : Db}
    {Q : Except Err (Option Err) → Db → Prop} :
    (tryCommit site keys write : Txn Db Key Site Err (Option Err)).Ensures db Q ↔
      (∀ db', write db = .ok db' → Q (.ok none) db') ∧
      (∀ e, write db = .error e → Q (.ok (some e)) db) := by
  unfold tryCommit Ensures
  rw [run_commit]
  cases write db <;> simp

theorem ensures_save {site : Site} {keys : List Key} {write : Db → Except Err Db} {db : Db}
    {Q : Except Err Unit → Db → Prop} :
    (save site keys write : Txn Db Key Site Err Unit).Ensures db Q ↔
      (∀ db', write db = .ok db' → Q (.ok ()) db') ∧
      (∀ e, write db = .error e → Q (.error e) db) := by
  unfold save Ensures
  rw [run_commit]
  cases write db <;> simp

theorem ensures_attempt {x : Txn Db Key Site Err β} {db : Db}
    {Q : Except Err (Except Err β) → Db → Prop} :
    x.attempt.Ensures db Q ↔ x.Ensures db fun r db' => Q (.ok r) db' := by
  simp [Ensures]

-- Every state that a run commits satisfies I, and the run ends in Q.
def Stays (I : Db → Prop) : Txn Db Key Site Err α → Db → (Except Err α → Db → Prop) → Prop
  | done a, db, Q => Q (.ok a) db
  | fail e, db, Q => Q (.error e) db
  | select k, db, Q => (k db).Stays I db Q
  | selectForUpdate _ k, db, Q => (k db).Stays I db Q
  | commit _ _ write k, db, Q =>
      (∀ db', write db = .ok db' → I db' ∧ (k none).Stays I db' Q) ∧
        ∀ e, write db = .error e → (k (some e)).Stays I db Q
  | send _ effect k, db, Q => I (effect db) ∧ k.Stays I (effect db) Q

section Stays

variable {I : Db → Prop} {db : Db}

theorem stays_bind {x : Txn Db Key Site Err β} {f : β → Txn Db Key Site Err α} :
    (x.bind f).Stays I db Q ↔ x.Stays I db fun r db' =>
      match r with
      | .ok a => (f a).Stays I db' Q
      | .error e => Q (.error e) db' := by
  induction x generalizing db with
  | done a => rfl
  | fail e => rfl
  | select k ih => exact ih db
  | selectForUpdate key k ih => exact ih db
  | commit site keys write k ih =>
      exact and_congr (forall₂_congr fun _ _ => and_congr_right fun _ => ih none)
        (forall₂_congr fun e _ => ih (some e))
  | send site effect k ih => exact and_congr_right fun _ => ih

@[simp]
theorem stays_done {a : α} :
    (done a : Txn Db Key Site Err α).Stays I db Q ↔ Q (.ok a) db := Iff.rfl

@[simp]
theorem stays_fail {e : Err} :
    (fail e : Txn Db Key Site Err α).Stays I db Q ↔ Q (.error e) db := Iff.rfl

theorem stays_read {q : Db → α} :
    (read q : Txn Db Key Site Err α).Stays I db Q ↔ Q (.ok (q db)) db := Iff.rfl

theorem stays_orFail {o : Option α} {e : Err} :
    (orFail e o : Txn Db Key Site Err α).Stays I db Q ↔
      (∀ a, o = some a → Q (.ok a) db) ∧ (o = none → Q (.error e) db) := by
  cases o <;> simp [orFail]

theorem stays_require {p : Prop} [Decidable p] {e : Err} {Q : Except Err Unit → Db → Prop} :
    (require p e : Txn Db Key Site Err Unit).Stays I db Q ↔
      (p → Q (.ok ()) db) ∧ (¬ p → Q (.error e) db) := by
  unfold require
  split <;> simp_all

theorem stays_tryCommit {site : Site} {keys : List Key} {write : Db → Except Err Db}
    {Q : Except Err (Option Err) → Db → Prop} :
    (tryCommit site keys write : Txn Db Key Site Err (Option Err)).Stays I db Q ↔
      (∀ db', write db = .ok db' → I db' ∧ Q (.ok none) db') ∧
        ∀ e, write db = .error e → Q (.ok (some e)) db := Iff.rfl

theorem stays_save {site : Site} {keys : List Key} {write : Db → Except Err Db}
    {Q : Except Err Unit → Db → Prop} :
    (save site keys write : Txn Db Key Site Err Unit).Stays I db Q ↔
      (∀ db', write db = .ok db' → I db' ∧ Q (.ok ()) db') ∧
        ∀ e, write db = .error e → Q (.error e) db := Iff.rfl

theorem Stays.weaken {I' : Db → Prop} {x : Txn Db Key Site Err α} (h : x.Stays I db Q)
    (hI : ∀ db, I db → I' db) : x.Stays I' db Q := by
  induction x generalizing db with
  | done a => exact h
  | fail e => exact h
  | select k ih => exact ih db h
  | selectForUpdate key k ih => exact ih db h
  | commit site keys write k ih =>
      exact ⟨fun db' hwrite => ⟨hI db' (h.1 db' hwrite).1, ih none (h.1 db' hwrite).2⟩,
        fun e hwrite => ih (some e) (h.2 e hwrite)⟩
  | send site effect k ih => exact ⟨hI _ h.1, ih h.2⟩

theorem Stays.run {x : Txn Db Key Site Err α} (h : x.Stays I db Q) (hI : I db) :
    I (x.run db).2 := by
  induction x generalizing db with
  | done a => exact hI
  | fail e => exact hI
  | select k ih => exact ih db h hI
  | selectForUpdate key k ih => exact ih db h hI
  | commit site keys write k ih =>
      rw [run_commit]
      cases hwrite : write db with
      | ok db' => exact ih none (h.1 db' hwrite).2 (h.1 db' hwrite).1
      | error e => exact ih (some e) (h.2 e hwrite) hI
  | send site effect k ih => exact ih h.2 h.1

theorem Stays.crashAfter {x : Txn Db Key Site Err α} {e : Err} {n : Nat} (h : x.Stays I db Q)
    (hfail : ∀ db, Q (.error e) db) : (x.crashAfter e n).Stays I db Q := by
  induction x generalizing db n with
  | done a => cases n <;> first | exact hfail _ | exact h
  | fail e' => cases n <;> first | exact hfail _ | exact h
  | select k ih =>
      cases n with
      | zero => exact hfail _
      | succ n => exact ih db h
  | selectForUpdate key k ih =>
      cases n with
      | zero => exact hfail _
      | succ n => exact ih db h
  | commit site keys write k ih =>
      cases n with
      | zero => exact hfail _
      | succ n =>
          exact ⟨fun db' hwrite => ⟨(h.1 db' hwrite).1, ih none (h.1 db' hwrite).2⟩,
            fun e hwrite => ih (some e) (h.2 e hwrite)⟩
  | send site effect k ih =>
      cases n with
      | zero => exact hfail _
      | succ n => exact ⟨h.1, ih h.2⟩

end Stays

def Conforms (P : Site → List Key → (Db → Except Err Db) → Prop) (R : α → Prop) :
    Txn Db Key Site Err α → Prop
  | done a => R a
  | fail _ => True
  | select k => ∀ db, (k db).Conforms P R
  | selectForUpdate _ k => ∀ db, (k db).Conforms P R
  | commit site keys write k => P site keys write ∧ ∀ fault, (k fault).Conforms P R
  | send site effect k => P site [] (fun db => .ok (effect db)) ∧ k.Conforms P R

variable {P : Site → List Key → (Db → Except Err Db) → Prop} {R : α → Prop}

theorem Conforms.mono {P' : Site → List Key → (Db → Except Err Db) → Prop} {R' : α → Prop}
    {x : Txn Db Key Site Err α} (h : x.Conforms P R)
    (hP : ∀ site keys write, P site keys write → P' site keys write)
    (hR : ∀ a, R a → R' a) : x.Conforms P' R' := by
  induction x with
  | done a => exact hR a h
  | fail e => trivial
  | select k ih => exact fun db => ih db (h db)
  | selectForUpdate key k ih => exact fun db => ih db (h db)
  | commit site keys write k ih => exact ⟨hP _ _ _ h.1, fun fault => ih fault (h.2 fault)⟩
  | send site effect k ih => exact ⟨hP _ _ _ h.1, ih h.2⟩

theorem conforms_bind {R' : β → Prop} {x : Txn Db Key Site Err β} {f : β → Txn Db Key Site Err α}
    (hx : x.Conforms P R') (hf : ∀ a, R' a → (f a).Conforms P R) : (x.bind f).Conforms P R := by
  induction x with
  | done a => exact hf a hx
  | fail e => trivial
  | select k ih => exact fun db => ih db (hx db)
  | selectForUpdate key k ih => exact fun db => ih db (hx db)
  | commit site keys write k ih => exact ⟨hx.1, fun fault => ih fault (hx.2 fault)⟩
  | send site effect k ih => exact ⟨hx.1, ih hx.2⟩

theorem conforms_attempt {R' : Except Err α → Prop} {x : Txn Db Key Site Err α}
    (hx : x.Conforms P R) (hok : ∀ a, R a → R' (.ok a)) (herr : ∀ e, R' (.error e)) :
    x.attempt.Conforms P R' := by
  induction x with
  | done a => exact hok a hx
  | fail e => exact herr e
  | select k ih => exact fun db => ih db (hx db)
  | selectForUpdate key k ih => exact fun db => ih db (hx db)
  | commit site keys write k ih => exact ⟨hx.1, fun fault => ih fault (hx.2 fault)⟩
  | send site effect k ih => exact ⟨hx.1, ih hx.2⟩

theorem conforms_require {p : Prop} [Decidable p] {e : Err} {R : Unit → Prop} (h : p → R ()) :
    (require p e : Txn Db Key Site Err Unit).Conforms P R := by
  unfold require
  split
  next hp => exact h hp
  next => trivial

theorem conforms_orFail {o : Option α} {e : Err} (h : ∀ a, o = some a → R a) :
    (orFail e o : Txn Db Key Site Err α).Conforms P R := by
  cases o with
  | none => trivial
  | some a => exact h a rfl

theorem conforms_tryCommit {site : Site} {keys : List Key} {write : Db → Except Err Db}
    {R : Option Err → Prop} (h : P site keys write) (hR : ∀ fault, R fault) :
    (tryCommit site keys write : Txn Db Key Site Err (Option Err)).Conforms P R :=
  ⟨h, hR⟩

theorem conforms_save {site : Site} {keys : List Key} {write : Db → Except Err Db}
    {R : Unit → Prop} (h : P site keys write) (hR : R ()) :
    (save site keys write : Txn Db Key Site Err Unit).Conforms P R :=
  ⟨h, fun fault => by
    cases fault with
    | none => exact hR
    | some e => trivial⟩

theorem Conforms.run_induction {x : Txn Db Key Site Err α} (T : Db → Db → Prop)
    (hrefl : ∀ db, T db db) (htrans : ∀ a b c, T a b → T b c → T a c)
    (hx : x.Conforms (fun _ _ write => ∀ db db', write db = .ok db' → T db db') R) (db : Db) :
    T db (x.run db).2 := by
  induction x generalizing db with
  | done a => exact hrefl db
  | fail e => exact hrefl db
  | select k ih => exact ih db (hx db) db
  | selectForUpdate key k ih => exact ih db (hx db) db
  | commit site keys write k ih =>
      rw [run_commit]
      cases hw : write db with
      | ok db' => exact htrans _ _ _ (hx.1 db db' hw) (ih none (hx.2 none) db')
      | error e => exact ih (some e) (hx.2 (some e)) db
  | send site effect k ih =>
      exact htrans _ _ _ (hx.1 db (effect db) rfl) (ih hx.2 (effect db))

def ReadOnly (R : α → Prop) (x : Txn Db Key Site Err α) : Prop :=
  x.Conforms (fun _ _ _ => False) R

theorem ReadOnly.conforms {x : Txn Db Key Site Err α} (h : x.ReadOnly R) : x.Conforms P R :=
  Conforms.mono h (fun _ _ _ => False.elim) fun _ => id

theorem ReadOnly.ensures {x : Txn Db Key Site Err α} {db : Db} (h : x.ReadOnly R)
    (hok : ∀ a, R a → Q (.ok a) db) (herr : ∀ e, Q (.error e) db) : x.Ensures db Q := by
  induction x generalizing db with
  | done a => exact hok a h
  | fail e => exact herr e
  | select k ih => exact ih db (h db) hok herr
  | selectForUpdate key k ih => exact ih db (h db) hok herr
  | commit site keys write k ih => exact h.1.elim
  | send site effect k ih => exact h.1.elim

def Yields (x : Txn Db Key Site Err α) (db : Db) (R : α → Prop) : Prop :=
  x.Ensures db fun r db' => db' = db ∧ ∀ a, r = .ok a → R a

theorem ReadOnly.yields {x : Txn Db Key Site Err α} {db : Db} (h : x.ReadOnly R) :
    x.Yields db R :=
  h.ensures (fun a ha => ⟨rfl, fun _ h' => Except.ok.inj h' ▸ ha⟩)
    fun e => ⟨rfl, fun a h' => by cases h'⟩

theorem yields_done {a : α} {db : Db} (h : R a) : (done a : Txn Db Key Site Err α).Yields db R :=
  ⟨rfl, fun _ h' => Except.ok.inj h' ▸ h⟩

theorem yields_fail {e : Err} {db : Db} : (fail e : Txn Db Key Site Err α).Yields db R :=
  ⟨rfl, fun a h => by cases h⟩

theorem yields_read {q : Db → α} {db : Db} (h : R (q db)) :
    (read q : Txn Db Key Site Err α).Yields db R :=
  ⟨rfl, fun _ h' => Except.ok.inj h' ▸ h⟩

theorem yields_lock {key : Key} {q : Db → α} {db : Db} (h : R (q db)) :
    (lock key q : Txn Db Key Site Err α).Yields db R :=
  ⟨rfl, fun _ h' => Except.ok.inj h' ▸ h⟩

theorem yields_orFail {o : Option α} {e : Err} {db : Db} (h : ∀ a, o = some a → R a) :
    (orFail e o : Txn Db Key Site Err α).Yields db R :=
  ReadOnly.yields (conforms_orFail h)

theorem ensures_seq {R : β → Prop} {x : Txn Db Key Site Err β} {f : β → Txn Db Key Site Err α}
    {db : Db} (hx : x.Yields db R) (hf : ∀ b, R b → (f b).Ensures db Q)
    (herr : ∀ e, Q (.error e) db) : (x.bind f).Ensures db Q := by
  refine ensures_bind.mpr (hx.mono fun r db' h => ?_)
  obtain ⟨rfl, hR⟩ := h
  cases r with
  | ok b => exact hf b (hR b rfl)
  | error e => exact herr e

theorem yields_seq {S : β → Prop} {x : Txn Db Key Site Err β} {f : β → Txn Db Key Site Err α}
    {db : Db} (hx : x.Yields db S) (hf : ∀ b, S b → (f b).Yields db R) :
    (x.bind f).Yields db R :=
  ensures_seq hx hf fun e => ⟨rfl, fun a h => by cases h⟩

theorem Yields.mono {R' : α → Prop} {x : Txn Db Key Site Err α} {db : Db} (h : x.Yields db R)
    (hR : ∀ a, R a → R' a) : x.Yields db R' :=
  Ensures.mono h fun _ _ hr => ⟨hr.1, fun a ha => hR a (hr.2 a ha)⟩

theorem Yields.and {R' : α → Prop} {x : Txn Db Key Site Err α} {db : Db} (h : x.Yields db R)
    (h' : x.Yields db R') : x.Yields db fun a => R a ∧ R' a :=
  ⟨h.1, fun a ha => ⟨h.2 a ha, h'.2 a ha⟩⟩

theorem Yields.forall {ι : Sort*} {R' : ι → α → Prop} {x : Txn Db Key Site Err α} {db : Db}
    (h : x.Yields db R) (hall : ∀ i, x.Yields db (R' i)) : x.Yields db fun a => ∀ i, R' i a :=
  ⟨h.1, fun a ha i => (hall i).2 a ha⟩

end Txn
