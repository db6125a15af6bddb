import NextgenBackend.Library.Txn

namespace Txn

variable {Db Key Site Err α β γ δ : Type} {E : Err → Err → Prop} {P : α → β → Prop}
  {Q : γ → δ → Prop} {db : Db}

-- From this database both programs answer alike, and neither changes it.
def Lockstep (E : Err → Err → Prop) (P : α → β → Prop) (x : Txn Db Key Site Err α)
    (y : Txn Db Key Site Err β) (db : Db) : Prop :=
  match x.run db, y.run db with
  | (.ok a, d), (.ok b, d') => d = db ∧ d' = db ∧ P a b
  | (.error e, d), (.error e', d') => d = db ∧ d' = db ∧ E e e'
  | _, _ => False

def AnswersAlike (E : Err → Err → Prop) : Except Err α → Except Err α → Prop
  | .ok a, .ok b => a = b
  | .error e, .error e' => E e e'
  | _, _ => False

theorem Lockstep.unchanged {x y : Txn Db Key Site Err α} (h : Lockstep E Eq x y db) :
    (x.run db).2 = db ∧ (y.run db).2 = db ∧ AnswersAlike E (x.run db).1 (y.run db).1 := by
  unfold Lockstep at h
  rcases hx : x.run db with ⟨_ | _, _⟩ <;> rcases hy : y.run db with ⟨_ | _, _⟩ <;>
    simp only [hx, hy] at h
  all_goals first | exact h.elim | exact h

theorem lockstep_done {a : α} {b : β} (h : P a b) :
    Lockstep E P (done a : Txn Db Key Site Err α) (done b) db :=
  ⟨rfl, rfl, h⟩

theorem lockstep_fail {e e' : Err} (h : E e e') :
    Lockstep E P (fail e : Txn Db Key Site Err α) (fail e') db :=
  ⟨rfl, rfl, h⟩

theorem lockstep_read {q : Db → α} {q' : Db → β} (h : P (q db) (q' db)) :
    Lockstep E P (read q : Txn Db Key Site Err α) (read q') db :=
  ⟨rfl, rfl, h⟩

theorem lockstep_lock {key key' : Key} {q : Db → α} {q' : Db → β} (h : P (q db) (q' db)) :
    Lockstep E P (lock key q : Txn Db Key Site Err α) (lock key' q') db :=
  ⟨rfl, rfl, h⟩

theorem lockstep_require {p p' : Prop} [Decidable p] [Decidable p'] {e e' : Err}
    {P : Unit → Unit → Prop} (hp : p' ↔ p) (he : E e e') (h : p → P () ()) :
    Lockstep E P (require p e : Txn Db Key Site Err Unit) (require p' e') db := by
  unfold require
  by_cases hholds : p
  · rw [if_pos hholds, if_pos (hp.mpr hholds)]
    exact lockstep_done (h hholds)
  · rw [if_neg hholds, if_neg (mt hp.mp hholds)]
    exact lockstep_fail he

theorem lockstep_orFail {o o' : Option α} {e e' : Err} {P : α → α → Prop} (ho : o' = o)
    (he : E e e') (h : ∀ a, o = some a → P a a) :
    Lockstep E P (orFail e o : Txn Db Key Site Err α) (orFail e' o') db := by
  subst ho
  cases o' with
  | none => exact lockstep_fail he
  | some a => exact lockstep_done (h a rfl)

theorem lockstep_bind {x : Txn Db Key Site Err α} {y : Txn Db Key Site Err β}
    {f : α → Txn Db Key Site Err γ} {g : β → Txn Db Key Site Err δ} (h : Lockstep E P x y db)
    (hf : ∀ a b, P a b → Lockstep E Q (f a) (g b) db) :
    Lockstep E Q (x.bind f) (y.bind g) db := by
  unfold Lockstep at h ⊢
  rw [run_bind, run_bind]
  rcases hx : x.run db with ⟨_ | a, d⟩ <;> rcases hy : y.run db with ⟨_ | b, d'⟩ <;>
    simp only [hx, hy] at h ⊢
  · exact h
  · obtain ⟨rfl, rfl, hP⟩ := h
    exact hf a b hP

theorem lockstep_same {R : α → Prop} {x : Txn Db Key Site Err α} (hE : ∀ e, E e e)
    (hx : x.Yields db R) : Lockstep E (fun a b => a = b ∧ R a) x x db := by
  obtain ⟨hdb, hR⟩ := hx
  unfold Lockstep
  rcases hrun : x.run db with ⟨_ | a, d⟩
  · rw [hrun] at hdb
    exact ⟨hdb, hdb, hE _⟩
  · rw [hrun] at hdb hR
    exact ⟨hdb, hdb, rfl, hR a rfl⟩

theorem lockstep_seq {x : Txn Db Key Site Err α} {f : α → Txn Db Key Site Err γ}
    {g : α → Txn Db Key Site Err δ} (hE : ∀ e, E e e) (hx : x.ReadOnly fun _ => True)
    (hf : ∀ a, Lockstep E Q (f a) (g a) db) : Lockstep E Q (x.bind f) (x.bind g) db :=
  lockstep_bind (lockstep_same hE hx.yields) fun _ _ h => h.1 ▸ hf _

end Txn
