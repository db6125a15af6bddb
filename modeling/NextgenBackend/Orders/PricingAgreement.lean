import NextgenBackend.Api.RoutesOrders.Lifecycle
import NextgenBackend.Bot.OrderCreator

namespace NextgenBackend.PricingAgreement

structure Figures where
  subtotalCents : Cents
  taxCents : Cents
  totalCents : Cents
deriving DecidableEq, Repr

def figures (o : Order) : Figures where
  subtotalCents := o.subtotalCents
  taxCents := o.taxCents
  totalCents := o.totalCents

def linesTotal (lines : List LineItemBreakdown) : Cents :=
  (lines.map (·.lineTotalCents)).sum

def configuredFee (business : Business) (mode : OrderMode) : Cents :=
  if mode = .delivery then business.deliveryFeeCents else 0

inductive BotOrder (business : Business) (lines : List LineItemBreakdown) (mode : OrderMode)
    (fee : Cents) : Order → Prop
  | created {orderId : Uuid} {customer : Customer} {context : Context} {status : OrderStatus}
      {sequence : Nat} {now : Instant}
      (cart : (Bot.orderCart context).map (·.breakdown) = lines)
      (orderMode : context.draft.orderMode.getD .pickup = mode)
      (deliveryFee : context.deliveryFeeCents.getD 0 = fee) :
      BotOrder business lines mode fee
        (Bot.newOrder orderId business customer context status sequence now)

inductive ManualOrder (business : Business) (lines : List LineItemBreakdown) (mode : OrderMode) :
    Order → Prop
  | created {user : AuthUser} {orderId : Uuid} {body : RoutesOrders.OrderCreate}
      {rows : List RoutesOrders.ItemRow} {sequence : Nat} {now : Instant}
      (items : rows.map (·.breakdown) = lines) (orderMode : body.orderMode = mode) :
      ManualOrder business lines mode
        (RoutesOrders.manualOrder user orderId body business rows sequence now)

inductive FeeOrder (business : Business) (lines : List LineItemBreakdown) (mode : OrderMode)
    (fee : Cents) : Order → Prop
  | set {loaded : Order} (items : loaded.subtotalCents = linesTotal lines)
      (orderMode : loaded.orderMode = mode) (undiscounted : loaded.discountCents = 0)
      (unredeemed : loaded.loyaltyDiscountCents = 0) :
      FeeOrder business lines mode fee (RoutesOrders.recordDeliveryFee loaded fee
        (RoutesOrders.deliveryTotals business loaded fee) loaded)

inductive PosOrder (business : Business) (lines : List LineItemBreakdown) (mode : OrderMode) :
    Order → Prop
  | created {user : AuthUser} {orderId : Uuid} {body : RoutesPos.POSOrderCreateRequest}
      {till : TillSession} {sale : RoutesPos.Sale} {changeDue : Option Cents} {sequence : Nat}
      {currency : String} {now : Instant} (configured : sale.business = business)
      (items : sale.items.map (·.breakdown) = lines) (orderMode : body.orderMode = mode)
      (undiscounted : body.discountCents = 0) (unredeemed : sale.redeemed = none) :
      PosOrder business lines mode
        (RoutesPos.newOrder user orderId body till sale changeDue sequence currency now)

def engineFigures (business : Business) (lines : List LineItemBreakdown) (fee : Cents) :
    Figures :=
  let net := max 0 (linesTotal lines + fee)
  let vat := if business.vatRegistered then
    Pricing.calculateVatCents net business.vatRateBasisPoints business.vatInclusivePricing else 0
  { subtotalCents := linesTotal lines
    taxCents := vat
    totalCents := if business.vatInclusivePricing then net else net + vat }

def plainFigures (lines : List LineItemBreakdown) (fee : Cents) : Figures where
  subtotalCents := linesTotal lines
  taxCents := 0
  totalCents := linesTotal lines + fee

-- There is no tax to leave out, nor a negative sum that the engine would clamp.
def Untaxed (business : Business) (netCents : Cents) : Prop :=
  0 ≤ netCents ∧ (business.vatRegistered = false ∨ business.vatRateBasisPoints ≤ 0 ∨
    2 * (netCents * business.vatRateBasisPoints) <
      10000 + if business.vatInclusivePricing then business.vatRateBasisPoints else 0)

section Paths

variable {business : Business} {lines : List LineItemBreakdown} {mode : OrderMode} {fee : Cents}
  {o : Order}

theorem figures_vat {net : Cents} {vatRegistered : Bool} {rate : Int} {inclusive : Bool} :
    (if vatRegistered then Pricing.applyVatToTotal net rate inclusive else (net, 0)) =
      (if inclusive then net else
        net + if vatRegistered then Pricing.calculateVatCents net rate inclusive else 0,
        if vatRegistered then Pricing.calculateVatCents net rate inclusive else 0) := by
  unfold Pricing.applyVatToTotal
  cases vatRegistered <;> cases inclusive <;> simp

theorem BotOrder.figures (h : BotOrder business lines mode fee o) :
    figures o = plainFigures lines fee := by
  cases h with
  | created cart orderMode deliveryFee =>
      have hsubtotal (items : List CartItem) :
          Bot.cartSubtotal items = linesTotal (items.map (·.breakdown)) := by
        simp [Bot.cartSubtotal, linesTotal, List.map_map, Function.comp_def]
      simp only [PricingAgreement.figures, Bot.newOrder, plainFigures, hsubtotal, cart, deliveryFee]

theorem ManualOrder.figures (h : ManualOrder business lines mode o) :
    figures o = engineFigures business lines (configuredFee business mode) := by
  cases h with
  | created items orderMode =>
      have hsubtotal (rows : List RoutesOrders.ItemRow) :
          RoutesOrders.rowsSubtotal rows = linesTotal (rows.map (·.breakdown)) := by
        simp [RoutesOrders.rowsSubtotal, linesTotal, List.map_map, Function.comp_def]
      simp only [PricingAgreement.figures, RoutesOrders.manualOrder, RoutesOrders.manualTotals,
        RoutesOrders.manualDeliveryFee, figures_vat, hsubtotal, items, orderMode, engineFigures,
        configuredFee]

theorem FeeOrder.figures (h : FeeOrder business lines mode fee o) :
    figures o = engineFigures business lines fee := by
  cases h with
  | @set loaded items orderMode undiscounted unredeemed =>
      simp only [PricingAgreement.figures, RoutesOrders.recordDeliveryFee,
        RoutesOrders.deliveryTotals, figures_vat, RoutesOrders.assign_self, items, undiscounted, unredeemed,
        sub_zero, engineFigures]

theorem PosOrder.figures (h : PosOrder business lines mode o) :
    figures o = engineFigures business lines (configuredFee business mode) := by
  cases h with
  | @created user orderId body till sale changeDue sequence currency now configured items orderMode
      undiscounted unredeemed =>
      have hsubtotal : RoutesPos.subtotal sale.items = linesTotal lines := by
        rw [← items]
        simp [RoutesPos.subtotal, linesTotal, List.map_map, Function.comp_def]
      have hunredeemed : sale.loyaltyDiscountCents = 0 := by
        simp [RoutesPos.Sale.loyaltyDiscountCents, unredeemed]
      have htotals : sale.totals body =
          ⟨configuredFee business mode, (engineFigures business lines
            (configuredFee business mode)).totalCents, (engineFigures business lines
              (configuredFee business mode)).taxCents⟩ := by
        simp only [RoutesPos.Sale.totals, hsubtotal, hunredeemed, configured, orderMode,
          undiscounted, sub_zero, engineFigures, configuredFee, Pricing.applyVatToTotal]
        cases business.vatRegistered <;> cases business.vatInclusivePricing <;> simp
      simp only [PricingAgreement.figures, RoutesPos.newOrder, htotals, hsubtotal, engineFigures]

theorem roundHalfUp_eq_zero {num : Int} {den : Nat} (hnum : 0 ≤ num) (hden : 0 < den) :
    Pricing.roundHalfUp num den = 0 ↔ 2 * num < den := by
  unfold Pricing.roundHalfUp
  rw [if_pos hnum]
  constructor
  · intro h
    by_contra hge
    have hone : 1 ≤ (2 * num + den) / (2 * den) := by
      apply Int.le_ediv_of_mul_le (by omega)
      omega
    omega
  · intro h
    exact Int.ediv_eq_zero_of_lt (by omega) (by omega)

theorem calculateVatCents_eq_zero {net rate : Int} {inclusive : Bool} (hnet : 0 ≤ net) :
    Pricing.calculateVatCents net rate inclusive = 0 ↔
      rate ≤ 0 ∨ 2 * (net * rate) < 10000 + if inclusive then rate else 0 := by
  unfold Pricing.calculateVatCents
  by_cases hrate : rate ≤ 0
  · simp [hrate]
  · by_cases hpositive : net ≤ 0
    · have hzero : net = 0 := by omega
      subst hzero
      cases inclusive with
      | true =>
          simp
          omega
      | false => simp
    · have hproduct : 0 ≤ net * rate := Int.mul_nonneg hnet (by omega)
      have htaxed : ¬ (rate ≤ 0 ∨ net ≤ 0) := by omega
      rw [if_neg htaxed]
      cases inclusive with
      | true =>
          have hden : ((10000 + rate.toNat : Nat) : Int) = 10000 + rate := by omega
          rw [if_pos rfl, roundHalfUp_eq_zero hproduct (by omega), hden]
          simp [hrate]
      | false =>
          rw [if_neg (by simp), roundHalfUp_eq_zero hproduct (by omega)]
          simp [hrate]

theorem untaxed_iff {net : Int} (hnet : 0 ≤ net) : Untaxed business net ↔
    (if business.vatRegistered then Pricing.calculateVatCents net business.vatRateBasisPoints
      business.vatInclusivePricing else 0) = 0 := by
  unfold Untaxed
  cases hregistered : business.vatRegistered with
  | false => simp [hnet]
  | true =>
      rw [if_pos rfl, calculateVatCents_eq_zero hnet]
      simp [hnet]

theorem plain_eq_engine_iff (net : Int) (hnet : linesTotal lines + fee = net) :
    plainFigures lines fee = engineFigures business lines fee ↔ Untaxed business net := by
  unfold plainFigures engineFigures
  by_cases hnonneg : 0 ≤ net
  · rw [untaxed_iff hnonneg]
    have hmax : max 0 net = net := max_eq_right hnonneg
    simp only [hnet, hmax, Figures.mk.injEq, true_and]
    constructor
    · rintro ⟨htax, -⟩
      exact htax.symm
    · intro htax
      rw [htax]
      cases business.vatInclusivePricing <;> simp
  · have hmax : max 0 net = 0 := max_eq_left (by omega)
    have hnone (rate : Int) (inclusive : Bool) :
        Pricing.calculateVatCents 0 rate inclusive = 0 := by
      simp [Pricing.calculateVatCents]
    simp only [hnet, hmax, hnone, ite_self, add_zero,
      Figures.mk.injEq, true_and]
    constructor
    · intro hzero
      have hzero : net = 0 := hzero
      omega
    · intro huntaxed
      exact absurd huntaxed.1 hnonneg

theorem four_paths_agree_iff {bot manual feeSet pos : Order}
    (hfee : fee = configuredFee business mode) (hbot : BotOrder business lines mode fee bot)
    (hmanual : ManualOrder business lines mode manual)
    (hset : FeeOrder business lines mode fee feeSet) (hpos : PosOrder business lines mode pos) :
    (figures bot = figures manual ∧ figures manual = figures feeSet ∧
      figures feeSet = figures pos) ↔ Untaxed business (linesTotal lines + fee) := by
  rw [hbot.figures, hmanual.figures, hset.figures, hpos.figures, ← hfee]
  constructor
  · rintro ⟨hagree, -⟩
    exact (plain_eq_engine_iff _ rfl).mp hagree
  · intro huntaxed
    exact ⟨(plain_eq_engine_iff _ rfl).mpr huntaxed, rfl, rfl⟩

end Paths

def vatCafe (vatRegistered : Bool) : Business where
  id := 1
  vatRegistered := vatRegistered
  vatRateBasisPoints := 1500
  deliveryFeeCents := 1500

def feast : LineItemBreakdown :=
  Pricing.calculateLineItem 5000 [] [] 2

def feastLine : Pos.ResolvedPOSItem where
  menuItemId := 3
  name := "Feast"
  breakdown := feast
  selectedOptionsSnapshot := []
  addOnsSnapshot := []
  removedIngredientsSnapshot := []
  specialInstructions := none
  requiresPreparation := true

def feastContext : Context where
  draft :=
    { cart := [{ menuItemId := 3, name := "Feast", breakdown := feast, selectedOptions := [],
                 addOns := [], specialInstructions := none }]
      orderMode := some .delivery }
  deliveryFeeCents := some 1500

def asManager : AuthUser where
  userId := 9
  businessId := 1
  role := .manager

def asCustomer : Customer where
  id := 7
  businessId := 1
  waId := none
  displayName := none
  phoneNumber := none

theorem unpriced : ∀ price ∈ (none : Option Cents), 0 ≤ price := by simp

def byHand : RoutesOrders.OrderCreate where
  customerName := none
  customerPhone := none
  deliveryAddress := none
  items := [{
    menuItemId := some 3
    selectedOptionIds := []
    addOnSelections := []
    removedIngredientIds := []
    name := none
    priceCents := none
    qty := 2
    specialInstructions := none
    pricingShape := by simp
    priceNonnegative := unpriced
    qtyInRange := by decide }]
  notes := none
  orderMode := .delivery
  source := .manual
  itemsNonempty := by simp
  sourceAllowed := by simp

theorem card_accepted : ∀ method ∈ some PaymentMethod.card, method ∈
    [PaymentMethod.cash, .card, .other] := by simp

theorem card_shape : (none : Option (List RoutesPos.POSPaymentAllocationRequest)).isSome ↔
    some PaymentMethod.card = none := by simp

theorem card_tendered : some PaymentMethod.card = some .cash → (none : Option Cents).isSome := by
  simp

theorem card_scoped : ∀ method ∈ some PaymentMethod.card, method ≠ .cash →
    (none : Option Cents) = none := by simp

def atTill : RoutesPos.POSOrderCreateRequest where
  items := [⟨3, 2, [], [], [], none⟩]
  orderMode := .delivery
  tableNumber := none
  customerName := none
  customerPhone := none
  discountCents := 0
  discountReason := none
  loyaltyRewardId := none
  paymentMethod := some .card
  cashTenderedCents := none
  paymentReference := none
  payments := none
  idempotencyKey := none
  itemsNonempty := by simp
  quantities := by simp
  discountNonnegative := RoutesPos.no_discount
  methodAccepted := card_accepted
  paymentsNonempty := RoutesPos.no_payments
  onePaymentShape := card_shape
  cashTendered := card_tendered
  cashScoped := card_scoped
  redemptionKeyed := RoutesPos.no_redemption

def botFeast (business : Business) : Order :=
  Bot.newOrder 11 business asCustomer feastContext .new 1 0

def manualFeast (business : Business) : Order :=
  RoutesOrders.manualOrder asManager 12 byHand business
    (RoutesOrders.itemRows none byHand.items [feastLine]) 2 0

def feeSetFeast (business : Business) : Order :=
  RoutesOrders.recordDeliveryFee (botFeast business) 1500
    (RoutesOrders.deliveryTotals business (botFeast business) 1500) (botFeast business)

def drawer : TillSession where
  id := 14
  businessId := 1
  openedByUserId := 9
  openingFloatCents := 0
  openedAt := 0

def posFeast (business : Business) : Order :=
  RoutesPos.newOrder asManager 13 atTill drawer ⟨business, [feastLine], none, none⟩ none 3 "ZAR" 0

theorem botFeast_order {business : Business} :
    BotOrder business [feast] .delivery 1500 (botFeast business) :=
  .created rfl rfl rfl

theorem manualFeast_order {business : Business} :
    ManualOrder business [feast] .delivery (manualFeast business) :=
  .created rfl rfl

theorem feeSetFeast_order {business : Business} :
    FeeOrder business [feast] .delivery 1500 (feeSetFeast business) :=
  .set rfl rfl rfl rfl

theorem posFeast_order {business : Business} :
    PosOrder business [feast] .delivery (posFeast business) :=
  .created rfl rfl rfl rfl rfl

theorem unregistered_feast_agrees :
    figures (botFeast (vatCafe false)) = figures (manualFeast (vatCafe false)) ∧
      figures (manualFeast (vatCafe false)) = figures (feeSetFeast (vatCafe false)) ∧
        figures (feeSetFeast (vatCafe false)) = figures (posFeast (vatCafe false)) :=
  (four_paths_agree_iff rfl botFeast_order manualFeast_order feeSetFeast_order posFeast_order).mpr
    ⟨by decide, .inl rfl⟩

theorem registered_feast_disagrees :
    ¬ ∀ (business : Business) (lines : List LineItemBreakdown) (mode : OrderMode) (fee : Cents)
        (bot manual feeSet pos : Order),
      fee = configuredFee business mode → BotOrder business lines mode fee bot →
      ManualOrder business lines mode manual → FeeOrder business lines mode fee feeSet →
      PosOrder business lines mode pos →
        figures bot = figures manual ∧ figures manual = figures feeSet ∧
          figures feeSet = figures pos := by
  intro h
  obtain ⟨hagree, -⟩ := h (vatCafe true) [feast] .delivery 1500 _ _ _ _ rfl botFeast_order
    manualFeast_order feeSetFeast_order posFeast_order
  have htax : (figures (botFeast (vatCafe true))).taxCents ≠
      (figures (manualFeast (vatCafe true))).taxCents := by
    decide +kernel
  exact htax (congrArg Figures.taxCents hagree)

end NextgenBackend.PricingAgreement
