import NextgenBackend.Core.Errors
import NextgenBackend.Library.Decimal.Number
import NextgenBackend.Library.Fallible
import NextgenBackend.Shared.Pricing

namespace NextgenBackend.Inventory

def milli : Nat := 1000

inductive MeasureFamily where
  | mass | volume | count
deriving DecidableEq, Repr

def MeasureFamily.value : MeasureFamily → String
  | .mass => "MASS"
  | .volume => "VOLUME"
  | .count => "COUNT"

def canonicalFamily : CanonicalUnit → MeasureFamily
  | .gram => .mass
  | .millilitre => .volume
  | .unit => .count

def canonicalValue : CanonicalUnit → String
  | .gram => "GRAM"
  | .millilitre => "MILLILITRE"
  | .unit => "UNIT"

structure UnitDef where
  symbol : String
  family : MeasureFamily
  factor : ℚ

def countUnits : List String :=
  ["UNIT", "UNITS", "EACH", "EA", "PORTION", "PORTIONS", "SACHET", "SACHETS", "BOTTLE", "BOTTLES",
    "BOX", "BOXES", "BALL", "BALLS", "TUB", "SLICE", "SLICES", "CAN", "CANS"]

def unitDefs : List UnitDef :=
  [⟨"MG", .mass, 1 / 1000⟩, ⟨"G", .mass, 1⟩, ⟨"GRAM", .mass, 1⟩, ⟨"GRAMS", .mass, 1⟩,
    ⟨"KG", .mass, 1000⟩, ⟨"KILOGRAM", .mass, 1000⟩,
    ⟨"ML", .volume, 1⟩, ⟨"MILLILITRE", .volume, 1⟩, ⟨"L", .volume, 1000⟩,
    ⟨"LITRE", .volume, 1000⟩, ⟨"LITER", .volume, 1000⟩] ++
  countUnits.map fun symbol => ⟨symbol, .count, 1⟩

def knownUnits : String :=
  ", ".intercalate ((unitDefs.map (·.symbol)).mergeSort fun a b => a ≤ b)

-- A quantity as a user typed it, or a number read off one.
inductive Quantity where
  | typed (text : String)
  | number (value : Decimal.Number)

inductive ConversionError where
  | unitError (message : String)
  | raised (exception : Decimal.Raised)
deriving DecidableEq, Repr

namespace ConversionError

def isUnitError : ConversionError → Bool
  | unitError _ => true
  | raised _ => false

def isValueError : ConversionError → Bool
  | unitError _ | raised (.valueError _) => true
  | raised _ => false

def message : ConversionError → String
  | unitError message | raised (.valueError message) | raised (.overflowError message) => message
  | raised .invalidOperation | raised .overflow => ""

end ConversionError

-- What a handler makes of a conversion whose exceptions it catches in part.
def translated {α : Type} (caught : ConversionError → Bool) (error : String → AppError) :
    Except ConversionError α → Except Failure α
  | .ok a => .ok a
  | .error e => .error (if caught e then .app (error e.message) else .unhandled)

def uncaught {α ε : Type} : Except ε α → Except Failure α
  | .ok a => .ok a
  | .error _ => .error .unhandled

-- Letters outside these have no upper case that a unit is spelled with.
def upper (c : Char) : List Char :=
  match c with
  | 'ı' => ['I']
  | 'ſ' => ['S']
  | 'ß' => ['S', 'S']
  | 'ﬀ' => ['F', 'F']
  | 'ﬁ' => ['F', 'I']
  | 'ﬂ' => ['F', 'L']
  | 'ﬃ' => ['F', 'F', 'I']
  | 'ﬄ' => ['F', 'F', 'L']
  | 'ﬅ' | 'ﬆ' => ['S', 'T']
  | c => [c.toUpper]

def unitKey (unit : String) : String :=
  String.ofList ((Text.strip unit.toList).flatMap upper)

def normaliseUnit (unit : String) : Except ConversionError UnitDef :=
  match unitDefs.find? fun d => d.symbol = unitKey unit with
  | some d => .ok d
  | none => .error (.unitError (s!"Unknown unit '{unit}'. Known units: " ++ knownUnits))

def asDecimal : Quantity → Except ConversionError Decimal.Number
  | .number value => .ok value
  | .typed text =>
      match Decimal.parse text.toList with
      | some value => .ok value
      | none => .error (.unitError ("'" ++ text ++ "' is not a valid quantity"))

def wholeUnits (exact : Except Decimal.Raised Decimal.Number) : Except ConversionError Int :=
  (exact >>= Decimal.Number.toWhole Decimal.defaultContext).mapError .raised

def toMilli (quantity : Quantity) (unit : String) (canonical : CanonicalUnit) :
    Except ConversionError Int := do
  let d ← normaliseUnit unit
  if canonicalFamily canonical ≠ d.family then
    .error (.unitError (s!"Cannot express {d.symbol} (a " ++ d.family.value ++ " unit) in " ++
      canonicalValue canonical ++ " - these are different kinds of measurement"))
  else
    let number ← asDecimal quantity
    wholeUnits do
      let canonicalUnits ← number.mul Decimal.defaultContext (.finite d.factor)
      canonicalUnits.mul Decimal.defaultContext (.finite milli)

def packToMilli (packCount : Quantity) (packSizeMilli : Int) : Except ConversionError Int := do
  let number ← asDecimal packCount
  wholeUnits (number.mul Decimal.defaultContext (.finite packSizeMilli))

def valueCents (quantityMilli costPerCanonicalMicroCents : Int) : Cents :=
  Pricing.roundHalfUp (quantityMilli * costPerCanonicalMicroCents) 1000000000

def costPerCanonicalMicroCents (packCostCents packSizeMilli : Int) : Int :=
  Pricing.roundHalfUp (packCostCents * 1000000000) packSizeMilli.toNat

theorem roundHalfUp_neg (n : Int) {d : Nat} (hd : 0 < d) :
    Pricing.roundHalfUp (-n) d = -Pricing.roundHalfUp n d := by
  unfold Pricing.roundHalfUp
  rcases lt_trichotomy n 0 with hn | hn | hn
  · have h1 : 0 ≤ -n := by omega
    have h2 : ¬ 0 ≤ n := by omega
    have h3 : 2 * -n + (d : Int) = -2 * n + d := by omega
    simp only [h1, h2, if_true, if_false, neg_neg, h3]
  · subst hn
    have h : (d : Int) / (2 * d) = 0 := Int.ediv_eq_zero_of_lt (by omega) (by omega)
    simp [h]
  · have h1 : ¬ 0 ≤ -n := by omega
    have h2 : 0 ≤ n := by omega
    have h3 : -2 * -n + (d : Int) = 2 * n + d := by omega
    simp only [h1, h2, if_true, if_false, h3]

theorem valueCents_neg (quantityMilli unitCost : Int) :
    valueCents (-quantityMilli) unitCost = -valueCents quantityMilli unitCost := by
  unfold valueCents
  rw [Int.neg_mul]
  exact roundHalfUp_neg _ (by decide)

example : toMilli (.typed "2.5") " kg" .gram = .ok 2500000 := by decide +kernel

def basisPoints (numeratorMilli denominatorMilli : Int) : Option Int :=
  if denominatorMilli = 0 then none
  else some (Pricing.roundHalfUp (numeratorMilli * 10000) denominatorMilli.natAbs)

structure IngredientVariance where
  openingMilli : Int := 0
  receivedMilli : Int := 0
  theoreticalConsumptionMilli : Int := 0
  wastageMilli : Int := 0
  adjustmentMilli : Int := 0
  countedMilli : Int := 0
  unitCostMicroCents : Int := 0
deriving DecidableEq, Repr

namespace IngredientVariance

def expectedMilli (v : IngredientVariance) : Int :=
  v.openingMilli + v.receivedMilli - v.theoreticalConsumptionMilli - v.wastageMilli +
    v.adjustmentMilli

def varianceMilli (v : IngredientVariance) : Int :=
  v.countedMilli - v.expectedMilli

def varianceValueCents (v : IngredientVariance) : Cents :=
  valueCents v.varianceMilli v.unitCostMicroCents

def theoreticalValueCents (v : IngredientVariance) : Cents :=
  valueCents v.theoreticalConsumptionMilli v.unitCostMicroCents

def varianceBasisPoints (v : IngredientVariance) : Option Int :=
  basisPoints v.varianceMilli v.theoreticalConsumptionMilli

end IngredientVariance

end NextgenBackend.Inventory
