import NextgenBackend.Api.RoutesInventory
import NextgenBackend.Api.RoutesRecipes

namespace NextgenBackend.Conversions

open Decimal (Number Raised defaultContext)
open Inventory RoutesInventory
open RoutesStocktake (CountLineRequest countedMilli)
open RoutesRecipes (RecipeItemRequest recipeMilli)

-- Every exception of the conversion is one that its caller catches.
def CaughtBy (caught : ConversionError → Bool) (result : Except ConversionError Int) : Prop :=
  ∀ e, result = .error e → caught e = true

def Convertible (scale : ℚ) : Number → Prop
  | .finite x => Number.Holds defaultContext (x * scale)
  | .infinite _ => False
  | .nan signaling => signaling = false

def PackConvertible (packSizeMilli : Int) : Number → Prop
  | .finite x => Number.Holds defaultContext (x * packSizeMilli)
  | .infinite _ | .nan _ => False

-- The quantity, where it reads as a number, is one that its unit turns into milli-units.
def Converts (quantity unit : String) (canonical : CanonicalUnit) : Prop :=
  ∀ d, normaliseUnit unit = .ok d → canonicalFamily canonical = d.family →
    ∀ number ∈ Decimal.parse quantity.toList, Convertible (d.factor * 1000) number

def PacksConvert (quantity : String) (packSizeMilli : Int) : Prop :=
  ∀ number ∈ Decimal.parse quantity.toList, PackConvertible packSizeMilli number

section Exceptions

variable {α : Type} {caught : ConversionError → Bool} {error : String → AppError}
  {result : Except ConversionError Int} {number : Number} {exact : Except Raised Number}

@[simp]
theorem caughtBy_ok {n : Int} : CaughtBy caught (.ok n) :=
  fun _ h => nomatch h

@[simp]
theorem caughtBy_error {e : ConversionError} :
    CaughtBy caught (.error e) ↔ caught e = true :=
  ⟨fun h => h e rfl, fun h _ he => Except.error.inj he ▸ h⟩

theorem not_caughtBy_signals (hcaught : ∀ e, caught (.raised e) = true → ∃ m, e = .valueError m)
    (h : Number.Signals (exact >>= Number.toWhole defaultContext)) :
    ¬ CaughtBy caught (wholeUnits exact) := by
  have hnot (e : Raised) (hwhole : (exact >>= Number.toWhole defaultContext) = .error e)
      (he : ∀ m, e ≠ .valueError m) : ¬ CaughtBy caught (wholeUnits exact) := by
    rw [wholeUnits, hwhole]
    intro hall
    obtain ⟨m, rfl⟩ := hcaught e (hall _ rfl)
    exact he m rfl
  rcases h with hinvalid | hoverflow
  · exact hnot _ hinvalid fun m hm => nomatch hm
  · exact hnot _ hoverflow fun m hm => nomatch hm

theorem caughtBy_whole {n : Int} (h : (exact >>= Number.toWhole defaultContext) = .ok n) :
    CaughtBy caught (wholeUnits exact) := by
  rw [wholeUnits, h]
  exact caughtBy_ok

theorem isValueError_raised (e : Raised)
    (h : ConversionError.isValueError (.raised e) = true) : ∃ m, e = .valueError m := by
  cases e with
  | valueError m => exact ⟨m, rfl⟩
  | invalidOperation => cases h
  | overflow => cases h
  | overflowError m => cases h

theorem translated_ne_unhandled :
    translated caught error result ≠ .error .unhandled ↔ CaughtBy caught result := by
  cases result with
  | ok n => simp [translated]
  | error e => cases h : caught e <;> simp [translated, h]

-- The check that follows a conversion answers for itself.
theorem checked_ne_unhandled {x : Except Failure Int} {p : Int → Prop} [DecidablePred p]
    {e : AppError} :
    (x >>= fun n => if p n then Except.error (Failure.app e) else Except.ok n) ≠
      .error .unhandled ↔ x ≠ .error .unhandled := by
  cases x with
  | error failure => rfl
  | ok n =>
      change (if p n then Except.error (Failure.app e) else Except.ok n) ≠ _ ↔ _
      split <;> simp

end Exceptions

section Converters

variable {factor : ℚ} {packSizeMilli : Int}

theorem caughtBy_scaled (number : Number) :
    CaughtBy ConversionError.isValueError (wholeUnits (Number.scaled defaultContext number factor 3))
      ↔ Convertible (factor * 1000) number := by
  cases number with
  | finite x =>
      have hscale : x * (factor * 1000) = x * factor * 10 ^ 3 := by ring
      by_cases h : Number.Holds defaultContext (x * factor * 10 ^ 3)
      · simp only [Convertible, hscale, h, iff_true]
        exact caughtBy_whole (Number.scaled_toWhole (by decide) (by decide) h)
      · simp only [Convertible, hscale, h, iff_false]
        exact not_caughtBy_signals isValueError_raised (Number.scaled_signals (by decide) h)
  | infinite negative =>
      simp only [Convertible, iff_false]
      exact not_caughtBy_signals isValueError_raised (Number.infinite_mul negative).mul.signals
  | nan signaling =>
      cases signaling with
      | true => exact ⟨fun h => absurd (h _ rfl) (by decide), fun h => nomatch h⟩
      | false => exact ⟨fun _ => rfl, fun _ => caughtBy_error.mpr rfl⟩

theorem caughtBy_pack (number : Number) :
    CaughtBy ConversionError.isUnitError
        (wholeUnits (number.mul defaultContext (.finite packSizeMilli))) ↔
      PackConvertible packSizeMilli number := by
  have hraised (e : Raised) (h : ConversionError.isUnitError (.raised e) = true) :
      ∃ m, e = .valueError m := nomatch h
  cases number with
  | finite x =>
      by_cases h : Number.Holds defaultContext (x * packSizeMilli)
      · simp only [PackConvertible, h, iff_true]
        exact caughtBy_whole (Number.rounded_toWhole (by decide) (by decide) h)
      · simp only [PackConvertible, h, iff_false]
        exact not_caughtBy_signals hraised (Number.rounded_signals (by decide) h)
  | infinite negative =>
      simp only [PackConvertible, iff_false]
      exact not_caughtBy_signals hraised (Number.infinite_mul negative).signals
  | nan signaling =>
      simp only [PackConvertible, iff_false]
      cases signaling <;> exact mt (fun h => h _ rfl) (by decide)

theorem caughtBy_asDecimal {quantity : String} {caught : ConversionError → Bool}
    {f : Number → Except ConversionError Int} (hcaught : ∀ m, caught (.unitError m) = true) :
    CaughtBy caught (asDecimal (.typed quantity) >>= f) ↔
      ∀ number ∈ Decimal.parse quantity.toList, CaughtBy caught (f number) := by
  dsimp only [asDecimal]
  cases Decimal.parse quantity.toList with
  | none =>
      constructor
      · intro _ number h
        cases h
      · intro _
        exact caughtBy_error.mpr (hcaught _)
  | some number =>
      constructor
      · rintro h _ ⟨⟩
        exact h
      · intro h
        exact h number rfl

theorem toMilli_caughtBy {quantity unit : String} {canonical : CanonicalUnit} :
    CaughtBy ConversionError.isValueError (toMilli (.typed quantity) unit canonical) ↔
      Converts quantity unit canonical := by
  unfold Converts toMilli
  cases hunit : normaliseUnit unit with
  | error e =>
      have he : e.isValueError = true := by
        unfold normaliseUnit at hunit
        split at hunit
        · cases hunit
        · obtain rfl := Except.error.inj hunit
          rfl
      constructor
      · intro _ d h
        cases h
      · intro _
        exact caughtBy_error.mpr he
  | ok d =>
      have hmilli : ((milli : ℕ) : ℚ) = 10 ^ 3 := by norm_num [milli]
      change CaughtBy _ (if canonicalFamily canonical ≠ d.family then _ else _) ↔ _
      split
      next hfamily =>
        constructor
        · rintro _ _ ⟨⟩ hsame
          exact absurd hsame hfamily
        · intro _
          exact caughtBy_error.mpr rfl
      next hfamily =>
        rw [caughtBy_asDecimal fun _ => rfl, hmilli]
        constructor
        · rintro h _ ⟨⟩ _ number hnumber
          exact (caughtBy_scaled number).mp (h number hnumber)
        · intro h number hnumber
          exact (caughtBy_scaled number).mpr (h d rfl (not_not.mp hfamily) number hnumber)

theorem packToMilli_caughtBy {quantity : String} :
    CaughtBy ConversionError.isUnitError (packToMilli (.typed quantity) packSizeMilli) ↔
      PacksConvert quantity packSizeMilli := by
  unfold PacksConvert packToMilli
  rw [caughtBy_asDecimal fun _ => rfl]
  exact forall₂_congr fun number _ => caughtBy_pack number

theorem converted_answered {quantity unit : String} {canonical : CanonicalUnit} :
    converted (.typed quantity) unit canonical ≠ .error .unhandled ↔
      Converts quantity unit canonical := by
  rw [converted, translated_ne_unhandled, toMilli_caughtBy]

end Converters

theorem quantities_answered_iff (ingredient : Ingredient) (line : GoodsReceiptLineRequest)
    (entry : CountLineRequest) (item : RecipeItemRequest) (quantity unit : String) :
    (converted (.typed quantity) unit ingredient.canonicalUnit ≠ .error .unhandled ↔
        Converts quantity unit ingredient.canonicalUnit) ∧
      (receivedMilli ingredient line ≠ .error .unhandled ↔
        if unitKey line.unit = "PACK" then PacksConvert line.quantity ingredient.purchasePackMilli
        else Converts line.quantity line.unit ingredient.canonicalUnit) ∧
      (countedMilli ingredient entry ≠ .error .unhandled ↔
        Converts entry.quantity entry.unit ingredient.canonicalUnit) ∧
      (recipeMilli ingredient item ≠ .error .unhandled ↔
        Converts item.quantity item.unit ingredient.canonicalUnit) := by
  refine ⟨converted_answered, ?_, ?_, ?_⟩
  · unfold receivedMilli
    rw [checked_ne_unhandled]
    unfold lineMilli
    split
    · rw [translated_ne_unhandled, packToMilli_caughtBy]
    · exact converted_answered
  · unfold countedMilli
    rw [checked_ne_unhandled, translated_ne_unhandled, toMilli_caughtBy]
  · unfold recipeMilli
    rw [checked_ne_unhandled, translated_ne_unhandled, toMilli_caughtBy]

theorem infinite_quantity_unhandled :
    ¬ ∀ (quantity unit : String) (canonical : CanonicalUnit),
      converted (.typed quantity) unit canonical ≠ .error .unhandled := by
  intro h
  exact h "Infinity" "KG" .gram (by decide +kernel)

end NextgenBackend.Conversions
