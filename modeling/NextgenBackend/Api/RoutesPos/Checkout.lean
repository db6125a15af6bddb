import NextgenBackend.Api.RoutesPos.PaymentLinks

namespace NextgenBackend.RoutesPos

open Txn

structure POSPaymentAllocationRequest where
  paymentMethod : PaymentMethod
  amountCents : Cents
  cashTenderedCents : Option Cents
  paymentReference : Option String
  paymentIntentId : Option Uuid
  methodAccepted : paymentMethod ∈ [.cash, .card, .other, .payByLink]
  amountPositive : 0 < amountCents
  cashCovers : paymentMethod = .cash → ∃ tendered ∈ cashTenderedCents, amountCents ≤ tendered
  cashScoped : paymentMethod ≠ .cash → cashTenderedCents = none
  linkNamed : paymentMethod = .payByLink → paymentIntentId.isSome
  linkScoped : paymentMethod ≠ .payByLink → paymentIntentId = none

def truthy (text : Option String) : Option String :=
  text.filter (· ≠ "")

structure POSOrderCreateRequest where
  items : List Pos.POSItemInput
  orderMode : OrderMode
  tableNumber : Option String
  customerName : Option String
  customerPhone : Option String
  discountCents : Cents
  discountReason : Option String
  loyaltyRewardId : Option Uuid
  paymentMethod : Option PaymentMethod
  cashTenderedCents : Option Cents
  paymentReference : Option String
  payments : Option (List POSPaymentAllocationRequest)
  idempotencyKey : Option String
  itemsNonempty : items ≠ []
  quantities : ∀ item ∈ items, 1 ≤ item.quantity ∧ item.quantity ≤ 999 ∧
    ∀ selection ∈ item.addOnSelections, 1 ≤ selection.quantity ∧ selection.quantity ≤ 99
  discountNonnegative : 0 ≤ discountCents
  methodAccepted : ∀ method ∈ paymentMethod, method ∈ [.cash, .card, .other]
  paymentsNonempty : payments ≠ some []
  onePaymentShape : payments.isSome ↔ paymentMethod = none
  cashTendered : paymentMethod = some .cash → cashTenderedCents.isSome
  cashScoped : ∀ method ∈ paymentMethod, method ≠ .cash → cashTenderedCents = none
  redemptionKeyed : loyaltyRewardId.isSome →
    (truthy customerPhone).isSome ∧ (truthy idempotencyKey).isSome

-- What a sale leaves out passes the checks of the request.
theorem no_discount : 0 ≤ (0 : Cents) := le_rfl

theorem no_payments : (none : Option (List POSPaymentAllocationRequest)) ≠ some [] := by simp

theorem no_redemption : (none : Option Uuid).isSome →
    (truthy none).isSome ∧ (truthy none).isSome := by simp

def orderByKey (businessId : Uuid) (idempotencyKey : String) (t : Tables) : Option Order :=
  t.orders.find? fun o => o.businessId = businessId ∧ o.idempotencyKey = some idempotencyKey

def replay (businessId : Uuid) (body : POSOrderCreateRequest) : Handler (Option Order) :=
  match truthy body.idempotencyKey with
  | none => pure none
  | some idempotencyKey => .read fun db => orderByKey businessId idempotencyKey db.toTables

def getOpenTill (businessId : Uuid) : Handler TillSession := do
  let till ← lockOpenTill businessId
  found ⟨"TILL_NOT_OPEN", "Open the till before ringing up a sale", 409, []⟩ till

def paymentMethodEnabled (business : Business) : PaymentMethod → Bool
  | .cash => business.posCashEnabled
  | .card => business.posCardEnabled
  | _ => business.posPayfastEnabled || business.posYocoEnabled || business.posIkhokaEnabled ||
      business.posDirectEftEnabled || business.posOtherPaymentEnabled

def checkMethod (business : Business) (method : PaymentMethod) : Except AppError Unit :=
  if paymentMethodEnabled business method then .ok ()
  else .error ⟨"PAYMENT_METHOD_NOT_ACCEPTED",
    "This business does not accept " ++ method.value ++ " at the till", 422, []⟩

def checkAllocationMethod (business : Business) (p : POSPaymentAllocationRequest) :
    Except AppError Unit :=
  if p.paymentMethod ≠ .payByLink then checkMethod business p.paymentMethod
  else if (posLinkProvider business).isSome then .ok ()
  else .error ⟨"PAYMENT_METHOD_NOT_ACCEPTED",
    "This business does not accept Pay by Link at the till", 422, []⟩

def checkMethods (business : Business) (body : POSOrderCreateRequest) : Except AppError Unit :=
  match body.payments, body.paymentMethod with
  | some payments, _ => payments.forM (checkAllocationMethod business)
  | none, some method => checkMethod business method
  | none, none => .ok ()

def checkRequest (business : Business) (body : POSOrderCreateRequest) : Except AppError Unit := do
  if body.loyaltyRewardId.isSome ∧ ¬ business.loyaltyEnabled then
    .error ⟨"LOYALTY_NOT_ENABLED", "The loyalty module is not enabled for this business", 409, []⟩
  checkMethods business body
  if business.posTableNumberRequired ∧ body.orderMode = .dineIn ∧
      (truthy body.tableNumber).isNone then
    .error ⟨"TABLE_NUMBER_REQUIRED", "A table number is required for dine-in orders", 422, []⟩

def subtotal (items : List Pos.ResolvedPOSItem) : Cents :=
  (items.map fun item => item.breakdown.lineTotalCents).sum

def checkDiscount (user : AuthUser) (business : Business) (body : POSOrderCreateRequest)
    (subtotalCents : Cents) : Except AppError Unit := do
  if subtotalCents < body.discountCents then
    .error ⟨"DISCOUNT_EXCEEDS_SUBTOTAL", "Discount cannot exceed the order subtotal", 422, []⟩
  let limit := business.maxStaffDiscountCents
  if 0 < body.discountCents ∧ user.role ≠ .owner ∧ limit < body.discountCents then
    .error ⟨"DISCOUNT_LIMIT_EXCEEDED",
      s!"This discount requires owner approval (staff limit is {limit} cents)", 403, []⟩

def priceItems (user : AuthUser) (body : POSOrderCreateRequest) :
    Handler (Business × List Pos.ResolvedPOSItem) := do
  let business ← loadBusiness user.businessId
  Pos.raiseError (checkRequest business body)
  let items ← Pos.resolvePosItems user.businessId body.items
  Pos.raiseError (checkDiscount user business body (subtotal items))
  pure (business, items)

def linkCustomer (user : AuthUser) (newCustomerId : Uuid) (body : POSOrderCreateRequest) :
    Handler (Option (LoyaltyProgram × Uuid) × Session) :=
  match truthy body.customerPhone with
  | none => pure (none, {})
  | some phone => do
      let program ← .read fun db => db.loyaltyPrograms.lookup user.businessId
      match program.filter (·.isEnabled) with
      | none => pure (none, {})
      | some program => do
          let (customerId, session) ← Loyalty.getOrCreateCustomerByPhone user.businessId
            newCustomerId phone body.customerName
          pure (some (program, customerId), session)

structure SaleRedemption where
  rewardId : Uuid
  redemption : Loyalty.CheckoutRedemption
deriving DecidableEq, Repr

def redeemForSale (user : AuthUser) (orderId : Uuid) (body : POSOrderCreateRequest)
    (subtotalCents : Cents) (linked : Option (LoyaltyProgram × Uuid)) (session : Session) :
    Handler (Option SaleRedemption × Session) :=
  match body.loyaltyRewardId with
  | none => pure (none, session)
  | some rewardId =>
      match linked with
      | none => raise
          ⟨"LOYALTY_DISABLED", "Loyalty programme is not enabled for this business", 422, []⟩
      | some (program, customerId) => do
          let row ← .read fun db => (db.loyaltyRewards.lookup rewardId).filter fun r =>
            r.businessId = user.businessId
          let reward ← found (notFoundError "LoyaltyReward" (some rewardId)) row
          let (redemption, session) ← Loyalty.redeemRewardForCheckout session user.businessId
            customerId reward program orderId (max 0 (subtotalCents - body.discountCents))
          pure (some ⟨reward.id, redemption⟩, session)

structure Sale where
  business : Business
  items : List Pos.ResolvedPOSItem
  customerId : Option Uuid
  redeemed : Option SaleRedemption

def prepareSale (user : AuthUser) (orderId newCustomerId : Uuid) (body : POSOrderCreateRequest) :
    Handler (Sale × Session) := do
  let (business, items) ← priceItems user body
  let (linked, session) ← linkCustomer user newCustomerId body
  let (redeemed, session) ← redeemForSale user orderId body (subtotal items) linked session
  pure (⟨business, items, linked.map (·.2), redeemed⟩, session)

structure Totals where
  deliveryFeeCents : Cents
  totalCents : Cents
  taxCents : Cents
deriving DecidableEq, Repr

def Sale.loyaltyDiscountCents (sale : Sale) : Cents :=
  sale.redeemed.elim 0 fun r => r.redemption.discountCents

def Sale.totals (sale : Sale) (body : POSOrderCreateRequest) : Totals :=
  let deliveryFee := if body.orderMode = .delivery then sale.business.deliveryFeeCents else 0
  let net := max 0
    (subtotal sale.items - body.discountCents - sale.loyaltyDiscountCents + deliveryFee)
  if sale.business.vatRegistered then
    let (total, tax) := Pricing.applyVatToTotal net sale.business.vatRateBasisPoints
      sale.business.vatInclusivePricing
    ⟨deliveryFee, total, tax⟩
  else ⟨deliveryFee, net, 0⟩

inductive Settlement where
  | replayed (order : Order)
  | settled (intents : List POSPaymentLinkIntent) (changeDueCents : Option Cents)

def Settlement.Matches (user : AuthUser) (payments : List POSPaymentAllocationRequest) :
    Settlement → Prop
  | .replayed _ => True
  | .settled intents _ =>
      intents.map (fun i => (some i.id, i.amountCents)) =
          (payments.filter fun p => p.paymentIntentId.isSome).map
            (fun p => (p.paymentIntentId, p.amountCents)) ∧
        ∀ i ∈ intents, i.status = .paid ∧ i.businessId = user.businessId

def replayConsumed (body : POSOrderCreateRequest) (intent : POSPaymentLinkIntent) :
    Handler Settlement := do
  let existing ← .read fun db => do
    let idempotencyKey ← truthy body.idempotencyKey
    let orderId ← intent.orderId
    (db.orders.lookup orderId).filter fun o => o.idempotencyKey = some idempotencyKey
  match existing with
  | some order => pure (.replayed order)
  | none => raise ⟨"PAYMENT_INTENT_ALREADY_CONSUMED",
      "This payment link has already been used for a completed sale", 409, []⟩

def checkPaidIntent (intent : POSPaymentLinkIntent) (p : POSPaymentAllocationRequest) :
    Except AppError Unit := do
  let status := intent.status.lowerValue
  if intent.status ≠ .paid then
    .error ⟨"PAYMENT_INTENT_NOT_PAID", s!"This payment link is {status}, not paid", 422, []⟩
  if intent.amountCents ≠ p.amountCents then
    .error ⟨"PAYMENT_INTENT_AMOUNT_MISMATCH",
      "This payment link's confirmed amount does not match the allocation", 422, []⟩

def claimIntents (user : AuthUser) (body : POSOrderCreateRequest) :
    List POSPaymentAllocationRequest → Handler Settlement
  | [] => pure (.settled [] none)
  | p :: payments =>
      match p.paymentIntentId with
      | none => claimIntents user body payments
      | some intentId => do
          let intent ← loadPosPaymentIntentForUpdate user.businessId intentId
          if intent.status = .consumed then replayConsumed body intent
          else do
            Pos.raiseError (checkPaidIntent intent p)
            let rest ← claimIntents user body payments
            match rest with
            | .replayed order => pure (.replayed order)
            | .settled intents changeDue => pure (.settled (intent :: intents) changeDue)

def paymentsTotal (payments : List POSPaymentAllocationRequest) : Cents :=
  (payments.map (·.amountCents)).sum

def settlePayments (user : AuthUser) (body : POSOrderCreateRequest) (totalCents : Cents) :
    Handler Settlement :=
  match body.payments with
  | some payments => do
      let sum := paymentsTotal payments
      ensure (sum = totalCents) ⟨"PAYMENT_TOTAL_MISMATCH",
        s!"Payment allocations sum to {sum} cents but the order total is {totalCents} cents",
        422, []⟩
      claimIntents user body payments
  | none =>
      if body.paymentMethod = some .cash then do
        let tendered := body.cashTenderedCents.getD 0
        ensure (totalCents ≤ tendered) ⟨"INSUFFICIENT_CASH_TENDERED",
          s!"Cash received ({tendered} cents) is less than the total ({totalCents} cents)", 422, []⟩
        pure (.settled [] (some (tendered - totalCents)))
      else pure (.settled [] none)

def consumeIntent (orderId : Uuid) (now : Instant) (i : POSPaymentLinkIntent) :
    POSPaymentLinkIntent :=
  { i with status := .consumed, orderId := some orderId, consumedAt := some now }

def consumeIntents (orderId : Uuid) (now : Instant) (intents : List POSPaymentLinkIntent) :
    Pending := fun t =>
  { t with
    intents := intents.foldl (fun table i => table.modify i.id (consumeIntent orderId now))
      t.intents }

def formatOrderNumber (sequence : Nat) : String :=
  let digits := toString sequence
  "BO-" ++ String.ofList (List.replicate (6 - digits.length) '0') ++ digits

def setOrderNumberSequence (businessId : Uuid) (sequence : Nat) : Pending := fun t =>
  { t with businesses := t.businesses.modify businessId fun b =>
      { b with orderNumberSequence := sequence } }

def nextOrderNumber (businessId : Uuid) (session : Session) :
    Handler (Nat × String × Session) := do
  let row ← .lock (.business businessId) fun db => db.businesses.lookup businessId
  let business ← found (notFoundError "Business" none) row
  let sequence := business.orderNumberSequence + 1
  pure (sequence, business.currency,
    session.stage [.business businessId] (setOrderNumberSequence businessId sequence))

def Sale.initialStatus (sale : Sale) : OrderStatus :=
  if sale.items.any (·.requiresPreparation) then .accepted else .completed

def newOrder (user : AuthUser) (orderId : Uuid) (body : POSOrderCreateRequest)
    (till : TillSession) (sale : Sale) (changeDueCents : Option Cents) (sequence : Nat)
    (currency : String) (now : Instant) : Order where
  id := orderId
  businessId := user.businessId
  customerId := sale.customerId
  orderNumber := formatOrderNumber sequence
  status := sale.initialStatus
  paymentStatus := .paid
  orderMode := body.orderMode
  source := .pos
  subtotalCents := subtotal sale.items
  deliveryFeeCents := (sale.totals body).deliveryFeeCents
  totalCents := (sale.totals body).totalCents
  currency := currency
  customerName := body.customerName
  phoneNumber := body.customerPhone
  confirmedAt := some now
  acceptedAt := if sale.initialStatus = .accepted then some now else none
  completedAt := if sale.initialStatus = .completed then some now else none
  paymentMethod := if body.payments.isSome then some .split else body.paymentMethod
  paymentReference := if body.payments.isSome then none else body.paymentReference
  paidAt := some now
  discountCents := body.discountCents
  taxCents := (sale.totals body).taxCents
  discountReason := body.discountReason
  discountApprovedByUserId := if 0 < body.discountCents then some user.userId else none
  tableNumber := if body.orderMode = .dineIn then body.tableNumber else none
  cashTenderedCents := if body.payments.isSome then none else body.cashTenderedCents
  changeDueCents := if body.payments.isSome then none else changeDueCents
  tillSessionId := some till.id
  idempotencyKey := body.idempotencyKey
  createdByUserId := some user.userId
  loyaltyDiscountCents := sale.loyaltyDiscountCents
  loyaltyRewardId := sale.redeemed.map (·.rewardId)
  loyaltyPointsRedeemed := sale.redeemed.elim 0 fun r => r.redemption.pointsCost
  loyaltyRewardName := sale.redeemed.map fun r => r.redemption.rewardName
  createdAt := now

def orderItem (order : Order) (item : Pos.ResolvedPOSItem) : OrderItem where
  orderId := order.id
  businessId := order.businessId
  menuItemId := some item.menuItemId
  nameSnapshot := item.name
  breakdown := item.breakdown
  selectedOptionsSnapshot := item.selectedOptionsSnapshot
  addOnsSnapshot := item.addOnsSnapshot
  removedIngredientsSnapshot := item.removedIngredientsSnapshot
  specialInstructions := item.specialInstructions

def checkoutReason (body : POSOrderCreateRequest) : String :=
  match body.payments with
  | some payments => "POS checkout — paid by SPLIT (" ++
      "+".intercalate (payments.map fun p => p.paymentMethod.value) ++ ")"
  | none => "POS checkout — paid by " ++ body.paymentMethod.elim "None" PaymentMethod.value

def splitAllocation (order : Order) (intents : List POSPaymentLinkIntent) (now : Instant)
    (p : POSPaymentAllocationRequest) (position : Nat) : POSPaymentAllocation :=
  let blank : POSPaymentAllocation :=
    { id := (order.id, position), businessId := order.businessId, orderId := order.id
      tillSessionId := order.tillSessionId, paymentMethod := p.paymentMethod
      amountCents := p.amountCents, createdByUserId := order.createdByUserId, createdAt := now }
  if p.paymentMethod = .cash then
    { blank with
      cashTenderedCents := p.cashTenderedCents
      changeDueCents := p.cashTenderedCents.map (· - p.amountCents) }
  else if p.paymentMethod = .payByLink then
    let intent := intents.find? fun i => some i.id = p.paymentIntentId
    { blank with
      provider := intent.map (·.provider)
      paymentLinkIntentId := intent.map (·.id)
      paymentReference := intent.bind (·.providerReference)
      paidAt := intent.bind (·.paidAt) }
  else { blank with paymentReference := p.paymentReference }

def singleAllocation (order : Order) (method : PaymentMethod) (now : Instant) :
    POSPaymentAllocation where
  id := (order.id, 0)
  businessId := order.businessId
  orderId := order.id
  tillSessionId := order.tillSessionId
  paymentMethod := method
  amountCents := order.totalCents
  cashTenderedCents := if method = .cash then order.cashTenderedCents else none
  changeDueCents := if method = .cash then order.changeDueCents else none
  paymentReference := order.paymentReference
  createdByUserId := order.createdByUserId
  createdAt := now

def allocationRows (body : POSOrderCreateRequest) (order : Order)
    (intents : List POSPaymentLinkIntent) (now : Instant) : List POSPaymentAllocation :=
  match body.payments, body.paymentMethod with
  | some payments, _ =>
      payments.zipIdx.map fun (p, position) => splitAllocation order intents now p position
  | none, some method => if 0 < order.totalCents then [singleAllocation order method now] else []
  | none, none => []

def insertOrder (order : Order) : Pending := fun t =>
  { t with orders := t.orders.insert order }

def insertOrderRows (items : List OrderItem) (event : OrderEvent)
    (allocations : List POSPaymentAllocation) : Pending := fun t =>
  { t with
    orderItems := t.orderItems ++ items
    orderEvents := t.orderEvents ++ [event]
    allocations := t.allocations ++ allocations }

def replayIdempotentCheckout (businessId : Uuid) (body : POSOrderCreateRequest)
    (fault : Failure) : Handler Order :=
  match fault, truthy body.idempotencyKey with
  | .integrity .uqOrdersBusinessIdempotencyKey, some idempotencyKey => do
      let existing ← .read fun db => orderByKey businessId idempotencyKey db.toTables
      .orFail fault existing
  | _, _ => .fail fault

def flush (session : Session) : Handler (Option Failure) :=
  .read fun db => (session.pending db.toTables).violation.map .integrity

def finishCheckout (user : AuthUser) (order : Order) : Handler Order := do
  let saved ← refreshOrder order.id
  if order.customerId.isSome then do
    Loyalty.awardLoyaltyPointsIfEnabled user.businessId saved
    refreshOrder order.id
  else pure saved

def saveCheckout (user : AuthUser) (body : POSOrderCreateRequest) (sale : Sale) (order : Order)
    (intents : List POSPaymentLinkIntent) (now : Instant) (session : Session) :
    Handler Order := do
  let session := session.stage [] (insertOrder order)
  let fault ← flush session
  match fault with
  | some fault => replayIdempotentCheckout user.businessId body fault
  | none => do
      let session := session.stage [] (insertOrderRows (sale.items.map (orderItem order))
        ⟨order.id, user.businessId, none, order.status, some user.userId,
          some (checkoutReason body)⟩
        (allocationRows body order intents now))
      let session ← session.stageWhen sale.business.inventoryEnabled fun session =>
        Inventory.postSaleConsumption session user.businessId order.id (some user.userId)
          (sale.items.map Inventory.lineSpec) now
      let fault ← .tryCommit (.createPosOrder order.id) session.touched
        (Database.write session.pending)
      match fault with
      | some fault => replayIdempotentCheckout user.businessId body fault
      | none => finishCheckout user order

def placeOrder (user : AuthUser) (orderId : Uuid) (body : POSOrderCreateRequest)
    (till : TillSession) (sale : Sale) (session : Session) : Handler Order := do
  let now ← readNow
  let settlement ← settlePayments user body (sale.totals body).totalCents
  match settlement with
  | .replayed order => pure order
  | .settled intents changeDue => do
      let session := session.stage (intents.map fun i => .intent i.id)
        (consumeIntents orderId now intents)
      let (sequence, currency, session) ← nextOrderNumber user.businessId session
      saveCheckout user body sale
        (newOrder user orderId body till sale changeDue sequence currency now) intents now session

def checkout (user : AuthUser) (orderId newCustomerId : Uuid) (body : POSOrderCreateRequest) :
    Handler Order := do
  let till ← getOpenTill user.businessId
  let (sale, session) ← prepareSale user orderId newCustomerId body
  placeOrder user orderId body till sale session

def createPosOrder (user : AuthUser) (orderId newCustomerId : Uuid)
    (body : POSOrderCreateRequest) : Handler Order := do
  requirePosEnabled user
  requireStaffOrAbove user
  let existing ← replay user.businessId body
  match existing with
  | some order => pure order
  | none => checkout user orderId newCustomerId body

theorem checkPaidIntent_ok {i : POSPaymentLinkIntent} {p : POSPaymentAllocationRequest}
    (h : checkPaidIntent i p = .ok ()) : i.status = .paid ∧ i.amountCents = p.amountCents := by
  by_cases hstatus : i.status = .paid
  · by_cases hamount : i.amountCents = p.amountCents
    · exact ⟨hstatus, hamount⟩
    · simp [checkPaidIntent, hstatus, hamount] at h
  · simp [checkPaidIntent, hstatus, Bind.bind, Except.bind] at h

theorem lookup_consumeIntents {orderId id : Uuid} {now : Instant}
    {intents : List POSPaymentLinkIntent} {t : Tables} :
    (consumeIntents orderId now intents t).intents.lookup id =
      (t.intents.lookup id).map fun i =>
        if id ∈ intents.map (·.id) then consumeIntent orderId now i else i := by
  induction intents generalizing t with
  | nil => simp [consumeIntents]
  | cons j intents ih =>
      have hcons : consumeIntents orderId now (j :: intents) t = consumeIntents orderId now intents
          { t with intents := t.intents.modify j.id (consumeIntent orderId now) } := rfl
      have hkey (i : POSPaymentLinkIntent) : key (consumeIntent orderId now i) = key i := rfl
      rw [hcons, ih, Table.lookup_modify hkey]
      rcases eq_or_ne id j.id with rfl | hne
      · cases t.intents.lookup j.id <;> simp [consumeIntent]
      · simp [hne]

section Frames

variable {sites : CommitSite → Prop} {N : Pending → Prop} {user : AuthUser}
  {businessId orderId newCustomerId : Uuid} {body : POSOrderCreateRequest} {session : Session}

@[simp]
theorem readOnly_replay : (replay businessId body).ReadOnly fun _ => True := by
  unfold replay
  split
  · trivial
  · exact readOnly_read

@[simp]
theorem readOnly_getOpenTill : (getOpenTill businessId).ReadOnly fun _ => True :=
  readOnly_seq readOnly_lockOpenTill fun _ => readOnly_found

@[simp]
theorem readOnly_priceItems : (priceItems user body).ReadOnly fun _ => True := by
  refine readOnly_seq readOnly_loadBusiness fun business => ?_
  refine readOnly_seq Pos.readOnly_raiseError fun _ => ?_
  refine readOnly_seq Pos.readOnly_resolvePosItems fun items => ?_
  exact readOnly_seq Pos.readOnly_raiseError fun _ => trivial

theorem linkCustomer_stages (hN : Neutral N)
    (hinsert : ∀ customer : Customer, customer.id = newCustomerId →
      customer.loyaltyPointsBalance = 0 → N (Loyalty.insertCustomer customer)) :
    (linkCustomer user newCustomerId body).ReadOnly fun r => Session.Extends N {} r.2 := by
  unfold linkCustomer
  split
  · exact hN.refl
  · refine readOnly_seq readOnly_read fun program => ?_
    split
    · exact hN.refl
    · exact conforms_bind (Loyalty.getOrCreateCustomerByPhone_stages hN hinsert) fun _ h => h

theorem redeemForSale_stages {subtotalCents : Cents} {linked : Option (LoyaltyProgram × Uuid)}
    (hN : Neutral N)
    (hpost : ∀ set row, row.transactionType = .redeem → row.orderId = some orderId →
      N (Loyalty.postPoints set row)) :
    (redeemForSale user orderId body subtotalCents linked session).ReadOnly
      fun r => session.Extends N r.2 := by
  unfold redeemForSale
  split
  · exact hN.refl
  · split
    · trivial
    · refine readOnly_seq readOnly_read fun row => ?_
      refine readOnly_seq readOnly_found fun reward => ?_
      exact conforms_bind (Loyalty.redeemRewardForCheckout_stages hpost) fun _ h => h

theorem prepareSale_stages (hN : Neutral N)
    (hinsert : ∀ customer : Customer, customer.id = newCustomerId →
      customer.loyaltyPointsBalance = 0 → N (Loyalty.insertCustomer customer))
    (hpost : ∀ set row, row.transactionType = .redeem → row.orderId = some orderId →
      N (Loyalty.postPoints set row)) :
    (prepareSale user orderId newCustomerId body).ReadOnly
      fun r => Session.Extends N {} r.2 := by
  refine readOnly_seq readOnly_priceItems fun priced => ?_
  refine conforms_bind (linkCustomer_stages hN hinsert) fun linked hs => ?_
  exact conforms_bind (redeemForSale_stages hN hpost) fun _ h => hN.trans hs h

@[simp]
theorem readOnly_replayConsumed {intent : POSPaymentLinkIntent} :
    (replayConsumed body intent).ReadOnly fun settlement =>
      ∀ (user : AuthUser) payments, settlement.Matches user payments := by
  refine readOnly_seq readOnly_read fun existing => ?_
  split
  · exact fun _ _ => trivial
  · trivial

theorem claimIntents_matches {payments : List POSPaymentAllocationRequest} :
    (claimIntents user body payments).ReadOnly (Settlement.Matches user payments) := by
  induction payments with
  | nil => exact ⟨rfl, by simp⟩
  | cons p payments ih =>
      unfold claimIntents
      split
      next hnone =>
        refine Conforms.mono ih (fun _ _ _ => id) fun settlement h => ?_
        cases settlement with
        | replayed order => trivial
        | settled intents changeDue => simpa [Settlement.Matches, hnone] using h
      next id hid =>
        refine conforms_bind loadPosPaymentIntentForUpdate_owned fun i hi => ?_
        obtain ⟨rfl, hbusiness⟩ := hi
        split
        · exact Conforms.mono readOnly_replayConsumed (fun _ _ _ => id) fun _ h => h _ _
        · refine conforms_bind (Pos.raiseError_ok _) fun _ hcheck => ?_
          obtain ⟨hstatus, hamount⟩ := checkPaidIntent_ok hcheck
          refine conforms_bind ih fun rest hrest => ?_
          cases rest with
          | replayed order => trivial
          | settled intents changeDue =>
              obtain ⟨hmap, hall⟩ := hrest
              refine ⟨by simp [hid, hamount, hmap], fun j hj => ?_⟩
              rcases List.mem_cons.mp hj with rfl | hj
              · exact ⟨hstatus, hbusiness⟩
              · exact hall j hj

theorem settlePayments_matches {totalCents : Cents} :
    (settlePayments user body totalCents).ReadOnly fun settlement =>
      settlement.Matches user (body.payments.getD []) ∧
        ∀ payments, body.payments = some payments → paymentsTotal payments = totalCents := by
  unfold settlePayments
  split
  next payments hpayments =>
    refine conforms_bind ensure_ok fun _ hsum => ?_
    refine Conforms.mono claimIntents_matches (fun _ _ _ => id) fun settlement h => ?_
    refine ⟨by simpa [hpayments] using h, fun payments' h' => ?_⟩
    rw [hpayments] at h'
    exact Option.some.inj h' ▸ hsum
  next hnone =>
    have hmatches (changeDue : Option Cents) :
        (Settlement.settled [] changeDue).Matches user (body.payments.getD []) := by
      simp [Settlement.Matches, hnone]
    have hnosum (payments : List POSPaymentAllocationRequest)
        (h : body.payments = some payments) : paymentsTotal payments = totalCents := by
      rw [hnone] at h
      cases h
    split
    · exact readOnly_seq readOnly_ensure fun _ => ⟨hmatches _, hnosum⟩
    · exact ⟨hmatches _, hnosum⟩

@[simp]
theorem readOnly_settlePayments {totalCents : Cents} :
    (settlePayments user body totalCents).ReadOnly fun _ => True :=
  Conforms.mono settlePayments_matches (fun _ _ _ => id) fun _ _ => trivial

theorem nextOrderNumber_stages
    (hsequence : ∀ sequence, N (setOrderNumberSequence businessId sequence)) :
    (nextOrderNumber businessId session).ReadOnly fun r => session.Extends N r.2.2 := by
  refine readOnly_seq readOnly_lock fun row => ?_
  exact readOnly_seq readOnly_found fun business => Session.extends_stage (hsequence _)

@[simp]
theorem readOnly_replayIdempotentCheckout {fault : Failure} :
    (replayIdempotentCheckout businessId body fault).ReadOnly fun _ => True := by
  unfold replayIdempotentCheckout
  split
  · exact readOnly_seq readOnly_read fun existing => conforms_orFail fun _ _ => trivial
  · trivial

structure CheckoutNeutral (user : AuthUser) (orderId newCustomerId : Uuid)
    (body : POSOrderCreateRequest) (sites : CommitSite → Prop) (N : Pending → Prop) : Prop where
  neutral : Neutral N
  orderSite : sites (.createPosOrder orderId)
  awardSite : ∀ orderId, sites (.awardLoyaltyPoints orderId)
  insertCustomer : ∀ customer : Customer, customer.id = newCustomerId →
    customer.loyaltyPointsBalance = 0 → N (Loyalty.insertCustomer customer)
  redeem : ∀ set row, row.transactionType = .redeem → row.orderId = some orderId →
    N (Loyalty.postPoints set row)
  earn : ∀ set row, Loyalty.Earning row → N (Loyalty.postPoints set row)
  consumeIntents : ∀ now intents, N (consumeIntents orderId now intents)
  sequence : ∀ sequence, N (setOrderNumberSequence user.businessId sequence)
  insertOrder : ∀ till sale changeDue sequence currency now,
    N (insertOrder (newOrder user orderId body till sale changeDue sequence currency now))
  insertOrderRows : ∀ till sale changeDue sequence currency now intents items event,
    N (insertOrderRows items event (allocationRows body
      (newOrder user orderId body till sale changeDue sequence currency now) intents now))
  appendMovements : ∀ movements, N (Inventory.appendMovements movements)

theorem finishCheckout_writes {order : Order} (hN : Neutral N)
    (haward : ∀ orderId, sites (.awardLoyaltyPoints orderId))
    (hearn : ∀ set row, Loyalty.Earning row → N (Loyalty.postPoints set row)) :
    Writes sites N (finishCheckout user order) := by
  refine writes_seq readOnly_refreshOrder fun saved => ?_
  split
  · refine writes_bind ?_ fun _ => writes_readOnly readOnly_refreshOrder
    exact Loyalty.awardLoyaltyPointsIfEnabled_writes hN (haward _) fun set row hrow _ =>
      hearn set row hrow
  · exact writes_done _

theorem saveCheckout_writes {order : Order} {sale : Sale} {intents : List POSPaymentLinkIntent}
    {now : Instant} (hN : Neutral N) (hs : Session.Extends N {} session)
    (hsite : sites (.createPosOrder order.id))
    (haward : ∀ orderId, sites (.awardLoyaltyPoints orderId))
    (hearn : ∀ set row, Loyalty.Earning row → N (Loyalty.postPoints set row))
    (horder : N (insertOrder order))
    (hrows : ∀ items event,
      N (insertOrderRows items event (allocationRows body order intents now)))
    (hmovements : ∀ movements, N (Inventory.appendMovements movements)) :
    Writes sites N (saveCheckout user body sale order intents now session) := by
  refine writes_seq readOnly_read fun fault => ?_
  split
  · exact writes_readOnly readOnly_replayIdempotentCheckout
  · refine writes_extend hN
      (hN.trans (hN.trans hs (Session.extends_stage horder)) (Session.extends_stage (hrows _ _)))
      (readOnly_stageWhen hN (Inventory.postSaleConsumption_stages hN hmovements))
      fun session hs => ?_
    refine writes_bind (writes_tryCommit hsite hs.pending) fun fault => ?_
    split
    · exact writes_readOnly readOnly_replayIdempotentCheckout
    · exact finishCheckout_writes hN haward hearn

theorem createPosOrder_writes (h : CheckoutNeutral user orderId newCustomerId body sites N) :
    Writes sites N (createPosOrder user orderId newCustomerId body) := by
  have hN := h.neutral
  refine writes_seq readOnly_requirePosEnabled fun _ => ?_
  refine writes_seq readOnly_requireStaffOrAbove fun _ => ?_
  refine writes_seq readOnly_replay fun existing => ?_
  split
  · exact writes_done _
  refine writes_seq readOnly_getOpenTill fun till => ?_
  refine writes_staged (prepareSale_stages hN h.insertCustomer h.redeem) fun prepared hs => ?_
  refine writes_seq readOnly_readNow fun now => ?_
  refine writes_seq readOnly_settlePayments fun settlement => ?_
  split
  · exact writes_done _
  refine writes_staged (nextOrderNumber_stages h.sequence) fun numbered hnumbered => ?_
  have hs := hN.trans (hN.trans hs (Session.extends_stage (h.consumeIntents _ _))) hnumbered
  exact saveCheckout_writes hN hs h.orderSite h.awardSite h.earn (h.insertOrder _ _ _ _ _ _)
    (h.insertOrderRows _ _ _ _ _ _ _) h.appendMovements

end Frames

end NextgenBackend.RoutesPos
