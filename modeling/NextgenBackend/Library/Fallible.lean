import Mathlib

namespace Fallible

variable {ε α β γ : Type}

-- The computation gives a value, and the value has the property.
def Gives (x : Except ε α) (Q : α → Prop) : Prop :=
  ∃ a, x = .ok a ∧ Q a

abbrev Succeeds (x : Except ε α) : Prop := Gives x fun _ => True

variable {x : Except ε α} {f : α → Except ε β} {Q Q' : α → Prop} {R : β → Prop} {xs : List α}

@[simp]
theorem gives_ok {a : α} : Gives (.ok a : Except ε α) Q ↔ Q a := by
  simp [Gives]

@[simp]
theorem gives_pure {a : α} : Gives (pure a : Except ε α) Q ↔ Q a :=
  gives_ok

@[simp]
theorem gives_error {e : ε} : Gives (.error e : Except ε α) Q ↔ False := by
  simp [Gives]

@[simp]
theorem gives_bind : Gives (x >>= f) R ↔ Gives x fun a => Gives (f a) R := by
  cases x with
  | ok a => simp [bind, Except.bind]
  | error e => simp [bind, Except.bind]

@[simp]
theorem gives_map {g : α → β} : Gives (x.map g) R ↔ Gives x fun a => R (g a) := by
  cases x with
  | ok a => simp [Except.map]
  | error e => simp [Except.map]

@[simp]
theorem gives_fmap {g : α → β} : Gives (g <$> x) R ↔ Gives x fun a => R (g a) :=
  gives_map

@[simp]
theorem gives_elim {o : Option α} {e : ε} :
    Gives (o.elim (.error e) .ok) Q ↔ ∃ a, o = some a ∧ Q a := by
  cases o with
  | none => simp
  | some a => simp

theorem bind_eq_ok {b : β} (h : x >>= f = .ok b) : ∃ a, x = .ok a ∧ f a = .ok b := by
  cases x with
  | error e => cases h
  | ok a => exact ⟨a, rfl, h⟩

theorem map_eq_ok {g : α → β} {b : β} : x.map g = .ok b ↔ ∃ a, x = .ok a ∧ g a = b := by
  cases x with
  | error e => simp [Except.map]
  | ok a => simp [Except.map]

theorem toOption_eq_some {a : α} : x.toOption = some a ↔ x = .ok a := by
  cases x with
  | error e => simp [Except.toOption]
  | ok b => simp [Except.toOption]

theorem Gives.mono (h : Gives x Q) (hQ : ∀ a, Q a → Q' a) : Gives x Q' := by
  obtain ⟨a, hx, ha⟩ := h
  exact ⟨a, hx, hQ a ha⟩

theorem gives_and {p : Prop} : (Gives x fun a => p ∧ Q a) ↔ p ∧ Gives x Q := by
  constructor
  · rintro ⟨a, hx, hp, ha⟩
    exact ⟨hp, a, hx, ha⟩
  · rintro ⟨hp, a, hx, ha⟩
    exact ⟨a, hx, hp, ha⟩

-- A list of computations gives the list of what they give one by one.
theorem gives_mapM {Q : List β → Prop} : Gives (xs.mapM f) Q ↔
    (∀ a ∈ xs, Succeeds (f a)) ∧ Q (xs.filterMap fun a => (f a).toOption) := by
  induction xs generalizing Q with
  | nil => simp
  | cons a xs ih =>
      simp only [List.mapM_cons, gives_bind, gives_pure, ih, List.forall_mem_cons]
      constructor
      · rintro ⟨b, hb, hrest, hQ⟩
        refine ⟨⟨⟨b, hb, trivial⟩, hrest⟩, ?_⟩
        rw [List.filterMap_cons, hb]
        exact hQ
      · rintro ⟨⟨⟨b, hb, -⟩, hrest⟩, hQ⟩
        refine ⟨b, hb, hrest, ?_⟩
        rw [List.filterMap_cons, hb] at hQ
        exact hQ

-- Each computation gives what is asked of its own place.
theorem gives_mapM_forall₂ {S : α → β → Prop} :
    Gives (xs.mapM f) (List.Forall₂ S xs) ↔ ∀ a ∈ xs, Gives (f a) (S a) := by
  induction xs with
  | nil => simp
  | cons a xs ih =>
      simp only [List.mapM_cons, gives_bind, gives_pure, List.forall₂_cons, gives_and, ih,
        List.forall_mem_cons]
      constructor
      · rintro ⟨b, hb, hab, hrest⟩
        exact ⟨⟨b, hb, hab⟩, hrest⟩
      · rintro ⟨⟨b, hb, hab⟩, hrest⟩
        exact ⟨b, hb, hab, hrest⟩

theorem mem_mapM_ok {bs : List β} (h : xs.mapM f = .ok bs) : ∀ b ∈ bs, ∃ a ∈ xs, f a = .ok b := by
  induction xs generalizing bs with
  | nil =>
      obtain rfl := Except.ok.inj h
      simp
  | cons a xs ih =>
      rw [List.mapM_cons] at h
      obtain ⟨b, hb, h⟩ := bind_eq_ok h
      obtain ⟨rest, hrest, h⟩ := bind_eq_ok h
      obtain rfl := Except.ok.inj h
      intro b' hb'
      rcases List.mem_cons.mp hb' with rfl | hb'
      · exact ⟨a, List.mem_cons_self, hb⟩
      · obtain ⟨a', ha', hf⟩ := ih hrest b' hb'
        exact ⟨a', List.mem_cons_of_mem _ ha', hf⟩

theorem gives_guard {p : Prop} [Decidable p] {e : ε} :
    Gives (if p then x else .error e) Q ↔ p ∧ Gives x Q := by
  by_cases hp : p
  · simp [hp]
  · simp [hp]

end Fallible
