import NextgenBackend.Library.Interleaving

namespace Interleaving

open RelyGuarantee

variable {ι Db Key Site Err α : Type} [DecidableEq ι] [DecidableEq Key]
  {D : Discipline Db Key Site} {Q : Except Err α → Set Key → Db → Prop}
  {c c' : Config ι Db Key Site Err α} {i j : ι}

def Ended : Txn Db Key Site Err α → Prop
  | .done _ => True
  | .fail _ => True
  | _ => False

-- One thread among others: it is safe from where it last looked, with the locks it holds until it
-- ends.
def Tracked (D : Discipline Db Key Site) (Q : Except Err α → Set Key → Db → Prop)
    (c : Config ι Db Key Site Err α) (i : ι) : Prop :=
  ∃ L db, D.rely L db c.db ∧ Safe D L db (c.prog i) Q ∧ (Ended (c.prog i) ∨ L = held c.owner i)

omit [DecidableEq ι] [DecidableEq Key] in
theorem tracked_start {db : Db} {prog : ι → Txn Db Key Site Err α}
    (h : Safe D ∅ db (prog i) Q) : Tracked D Q (start db prog) i := by
  refine ⟨∅, db, D.rely_refl _ _, h, .inr ?_⟩
  ext key
  simp [held, start]

omit [DecidableEq ι] [DecidableEq Key] in
theorem tracked_of_rely {db : Db} (h : Tracked D Q c i) (hrely : ∀ L, D.rely L c.db db) :
    Tracked D Q { c with db := db } i := by
  obtain ⟨L, db0, hr, hsafe, hheld⟩ := h
  exact ⟨L, db0, D.rely_trans _ _ _ _ hr (hrely L), hsafe, hheld⟩

-- After its own step the thread is safe from the very state that it finds.
theorem safe_thread (hinv : D.inv c.db) (h : Tracked D Q c i) (hadmits : c.Meets D.admits i)
    (hstep : c.step? i = some c') :
    Ended (c.prog i) ∧ c'.prog i = c.prog i ∧ c'.db = c.db ∨
      ¬ Ended (c.prog i) ∧ Safe D (held c'.owner i) c'.db (c'.prog i) Q := by
  obtain ⟨L, db, hr, hsafe, hheld⟩ := h
  unfold Config.step? at hstep
  cases hp : c.prog i with
  | done a =>
      rw [hp] at hstep
      obtain rfl := Option.some.inj hstep
      exact .inl ⟨trivial, hp, rfl⟩
  | fail e =>
      rw [hp] at hstep
      obtain rfl := Option.some.inj hstep
      exact .inl ⟨trivial, hp, rfl⟩
  | select k =>
      rw [hp] at hstep hsafe hheld
      obtain rfl := Option.some.inj hstep
      obtain rfl := hheld.resolve_left fun h => h
      refine .inr ⟨fun h => h, ?_⟩
      simpa only [Function.update_self] using hsafe c.db hinv hr
  | selectForUpdate key k =>
      rw [hp] at hstep hsafe hheld
      simp only [Option.ite_none_right_eq_some, Option.some.injEq] at hstep
      obtain ⟨-, rfl⟩ := hstep
      obtain rfl := hheld.resolve_left fun h => h
      refine .inr ⟨fun h => h, ?_⟩
      simpa only [Function.update_self, held_update_self] using hsafe c.db hinv hr
  | commit site keys write k =>
      rw [hp] at hstep hsafe
      simp only [Option.ite_none_right_eq_some] at hstep
      obtain ⟨-, hstep⟩ := hstep
      have hmeets : D.admits site c.db := by simpa only [Config.Meets, hp] using hadmits
      obtain ⟨hok, herr⟩ := hsafe c.db hinv hr hmeets
      refine .inr ⟨fun h => h, ?_⟩
      cases hw : write c.db with
      | ok db' =>
          rw [hw] at hstep
          obtain rfl := Option.some.inj hstep
          simpa only [Function.update_self, held_release_self] using (hok db' hw).2
      | error e =>
          rw [hw] at hstep
          obtain rfl := Option.some.inj hstep
          simpa only [Function.update_self, held_release_self] using herr e hw
  | send site effect k =>
      rw [hp] at hstep hsafe hheld
      obtain rfl := Option.some.inj hstep
      obtain rfl := hheld.resolve_left fun h => h
      have hmeets : D.admits site c.db := by simpa only [Config.Meets, hp] using hadmits
      refine .inr ⟨fun h => h, ?_⟩
      simpa only [Function.update_self] using (hsafe c.db hinv hr hmeets).2

theorem other_thread (hij : i ≠ j) (hstep : c.step? j = some c') :
    c'.prog i = c.prog i ∧ held c'.owner i = held c.owner i := by
  unfold Config.step? at hstep
  cases hp : c.prog j with
  | done a =>
      rw [hp] at hstep
      obtain rfl := Option.some.inj hstep
      exact ⟨rfl, held_release_ne hij⟩
  | fail e =>
      rw [hp] at hstep
      obtain rfl := Option.some.inj hstep
      exact ⟨rfl, held_release_ne hij⟩
  | select k =>
      rw [hp] at hstep
      obtain rfl := Option.some.inj hstep
      exact ⟨Function.update_of_ne hij _ _, rfl⟩
  | selectForUpdate key k =>
      rw [hp] at hstep
      simp only [Option.ite_none_right_eq_some, Option.some.injEq] at hstep
      obtain ⟨hfree, rfl⟩ := hstep
      exact ⟨Function.update_of_ne hij _ _, held_update_ne hij hfree⟩
  | commit site keys write k =>
      rw [hp] at hstep
      simp only [Option.ite_none_right_eq_some] at hstep
      obtain ⟨-, hstep⟩ := hstep
      cases hw : write c.db with
      | ok db' =>
          rw [hw] at hstep
          obtain rfl := Option.some.inj hstep
          exact ⟨Function.update_of_ne hij _ _, held_release_ne hij⟩
      | error e =>
          rw [hw] at hstep
          obtain rfl := Option.some.inj hstep
          exact ⟨Function.update_of_ne hij _ _, held_release_ne hij⟩
  | send site effect k =>
      rw [hp] at hstep
      obtain rfl := Option.some.inj hstep
      exact ⟨Function.update_of_ne hij _ _, rfl⟩

theorem tracked_thread (hinv : D.inv c.db) (h : Tracked D Q c i)
    (hadmits : ∀ j, c.Meets D.admits j) (hrely : ∀ L, D.rely L c.db c'.db)
    (hstep : c.step? j = some c') : Tracked D Q c' i := by
  by_cases hij : i = j
  · subst hij
    rcases safe_thread hinv h (hadmits i) hstep with ⟨hended, hprog, hdb⟩ | ⟨-, hsafe⟩
    · obtain ⟨L, db, hr, hsafe, -⟩ := h
      exact ⟨L, db, hdb ▸ hr, hprog ▸ hsafe, .inl (hprog ▸ hended)⟩
    · exact ⟨_, c'.db, D.rely_refl _ _, hsafe, .inr rfl⟩
  · obtain ⟨hprog, howner⟩ := other_thread hij hstep
    obtain ⟨L, db, hr, hsafe, hheld⟩ := h
    exact ⟨L, db, D.rely_trans _ _ _ _ hr (hrely L), hprog ▸ hsafe, by rwa [hprog, howner]⟩

end Interleaving
