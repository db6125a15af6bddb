import NextgenBackend.Shared.Models

namespace NextgenBackend.Pricing

def roundHalfUp (num : Int) (den : Nat) : Int :=
  if 0 ≤ num then (2 * num + den) / (2 * den) else -((-2 * num + den) / (2 * den))

def optionAdjustment (selectedOptions : List SelectedOption) : Cents :=
  (selectedOptions.map fun o => o.priceDeltaCents).sum

def addOnTotal (addOns : List SelectedAddOn) : Cents :=
  (addOns.map fun a => a.priceCents * a.quantity).sum

def calculateLineItem (basePriceCents : Cents) (selectedOptions : List SelectedOption)
    (addOns : List SelectedAddOn) (quantity : Int) : LineItemBreakdown :=
  let unitPrice := max 0 (basePriceCents + optionAdjustment selectedOptions + addOnTotal addOns)
  { basePriceCents := basePriceCents
    optionAdjustmentCents := optionAdjustment selectedOptions
    addOnTotalCents := addOnTotal addOns
    unitPriceCents := unitPrice
    quantity := quantity
    lineTotalCents := unitPrice * quantity }

def calculateVatCents (amountCents : Cents) (vatRateBasisPoints : Int) (vatInclusive : Bool) :
    Cents :=
  if vatRateBasisPoints ≤ 0 ∨ amountCents ≤ 0 then 0
  else if vatInclusive then
    roundHalfUp (amountCents * vatRateBasisPoints) (10000 + vatRateBasisPoints.toNat)
  else roundHalfUp (amountCents * vatRateBasisPoints) 10000

def applyVatToTotal (netTotalCents : Cents) (vatRateBasisPoints : Int) (vatInclusive : Bool) :
    Cents × Cents :=
  let vat := calculateVatCents netTotalCents vatRateBasisPoints vatInclusive
  if vatInclusive then (netTotalCents, vat) else (netTotalCents + vat, vat)

def twoDigits (n : Nat) : String :=
  if n < 10 then s!"0{n}" else s!"{n}"

def randText (cents : Cents) : String :=
  let magnitude := cents.natAbs
  let rand := magnitude / 100
  (if cents < 0 then "-" else "") ++ s!"{rand}." ++ twoDigits (magnitude % 100)

def currencySymbol (currency : String) : String :=
  match currency with
  | "ZAR" => "R"
  | "USD" => "$"
  | "EUR" => "€"
  | "GBP" => "£"
  | _ => currency ++ " "

def formatCurrency (cents : Cents) (currency : String) : String :=
  currencySymbol currency ++ randText cents

end NextgenBackend.Pricing
