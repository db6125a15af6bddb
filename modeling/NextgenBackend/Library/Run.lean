import Mathlib

namespace Run

variable {S E : Type} {P P' : S → E → S → Prop} {s : S} {steps steps' : List (E × S)}

def Along (P : S → E → S → Prop) : S → List (E × S) → Prop
  | _, [] => True
  | s, (event, s') :: steps => P s event s' ∧ Along P s' steps

def decidableAlong (P : S → E → S → Prop) [∀ s event s', Decidable (P s event s')] :
    (s : S) → (steps : List (E × S)) → Decidable (Along P s steps)
  | _, [] => isTrue trivial
  | s, (event, s') :: steps =>
      match decidableAlong P s' steps with
      | isTrue h => decidable_of_iff (P s event s') (by simp [Along, h])
      | isFalse h => isFalse fun hall => h hall.2

instance [∀ s event s', Decidable (P s event s')] : Decidable (Along P s steps) :=
  decidableAlong P s steps

def last : S → List (E × S) → S
  | s, [] => s
  | _, (_, s') :: steps => last s' steps

@[simp]
theorem last_append : last s (steps ++ steps') = last (last s steps) steps' := by
  induction steps generalizing s with
  | nil => rfl
  | cons step steps ih => exact ih

theorem along_append :
    Along P s (steps ++ steps') ↔ Along P s steps ∧ Along P (last s steps) steps' := by
  induction steps generalizing s with
  | nil => simp [Along, last]
  | cons step steps ih => simp only [List.cons_append, Along, last, ih, and_assoc]

theorem along_snoc {event : E} {s' : S} :
    Along P s (steps ++ [(event, s')]) ↔ Along P s steps ∧ P (last s steps) event s' := by
  simp [along_append, Along]

theorem Along.mono (h : Along P s steps) (hP : ∀ s event s', P s event s' → P' s event s') :
    Along P' s steps := by
  induction steps generalizing s with
  | nil => trivial
  | cons step steps ih => exact ⟨hP _ _ _ h.1, ih h.2⟩

theorem along_iff : Along P s steps ↔
    ∀ taken event s', taken ++ [(event, s')] <+: steps → P (last s taken) event s' := by
  induction steps generalizing s with
  | nil => simp [Along]
  | cons step steps ih =>
      constructor
      · rintro ⟨hstep, hsteps⟩ taken event s' hpre
        cases taken with
        | nil =>
            obtain ⟨rfl, -⟩ := List.cons_prefix_cons.mp hpre
            exact hstep
        | cons first taken =>
            obtain ⟨hfirst, hrest⟩ := List.cons_prefix_cons.mp hpre
            subst hfirst
            exact ih.mp hsteps taken event s' hrest
      · intro h
        refine ⟨h [] step.1 step.2 (by simp), ih.mpr fun taken event s' hpre => ?_⟩
        exact h (step :: taken) event s' (List.cons_prefix_cons.mpr ⟨rfl, hpre⟩)

theorem Along.and (h : Along P s steps) (h' : Along P' s steps) :
    Along (fun s event s' => P s event s' ∧ P' s event s') s steps := by
  induction steps generalizing s with
  | nil => trivial
  | cons step steps ih => exact ⟨⟨h.1, h'.1⟩, ih h.2 h'.2⟩

theorem Along.of_prefix (h : Along P s steps) (hpre : steps' <+: steps) : Along P s steps' := by
  obtain ⟨rest, rfl⟩ := hpre
  exact (along_append.mp h).1

theorem Along.history {I : List (E × S) → Prop} (h : Along P s steps) (hnil : I [])
    (hsnoc : ∀ taken event s', I taken → P (last s taken) event s' → I (taken ++ [(event, s')])) :
    I steps := by
  induction steps using List.reverseRecOn with
  | nil => exact hnil
  | append_singleton steps step ih =>
      obtain ⟨hsteps, hstep⟩ := along_snoc.mp h
      exact hsnoc steps _ _ (ih hsteps) hstep

theorem Along.invariant {I : S → Prop} (h : Along P s steps) (hs : I s)
    (hstep : ∀ s event s', I s → P s event s' → I s') : I (last s steps) :=
  h.history (I := fun taken => I (last s taken)) hs fun taken event s' hI hP => by
    simpa [last] using hstep _ _ _ hI hP

theorem Along.carrying {I : S → Prop} (h : Along P s steps) (hs : I s)
    (hstep : ∀ s event s', I s → P s event s' → I s') :
    Along (fun s event s' => P s event s' ∧ I s) s steps := by
  induction steps generalizing s with
  | nil => trivial
  | cons step steps ih => exact ⟨⟨h.1, hs⟩, ih h.2 (hstep _ _ _ hs h.1)⟩

-- What a system shows at each event of a run.
def outputs {O : Type} (step : S → E → S × O) : S → List E → List O
  | _, [] => []
  | s, event :: events => (step s event).2 :: outputs step (step s event).1 events

-- Related states show the same, where every step shows the same and leaves them related.
theorem outputs_eq {O : Type} {step : S → E → S × O} {R : S → S → Prop} {s' : S} {events : List E}
    (hstep : ∀ s s' event, R s s' →
      (step s event).2 = (step s' event).2 ∧ R (step s event).1 (step s' event).1)
    (h : R s s') : outputs step s events = outputs step s' events := by
  induction events generalizing s s' with
  | nil => rfl
  | cons event events ih =>
      obtain ⟨hshown, hnext⟩ := hstep s s' event h
      rw [outputs, outputs, hshown, ih hnext]

-- A loop whose rounds keep a fact and bring a measure down comes to its end with that fact.
theorem exists_done {step : S → S} {I Done : S → Prop} {measure : S → ℕ}
    (hstep : ∀ s, I s → ¬ Done s → I (step s) ∧ measure (step s) < measure s) (hs : I s) :
    ∃ n, I (step^[n] s) ∧ Done (step^[n] s) := by
  generalize hm : measure s = m
  induction m using Nat.strongRecOn generalizing s with
  | ind m ih =>
      by_cases hdone : Done s
      · exact ⟨0, hs, hdone⟩
      · obtain ⟨hnext, hlt⟩ := hstep s hs hdone
        obtain ⟨n, hn⟩ := ih _ (hm ▸ hlt) hnext rfl
        exact ⟨n + 1, hn⟩

end Run
