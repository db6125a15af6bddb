import NextgenBackend.Api.RoutesOrders
import NextgenBackend.Api.RoutesPos.Checkout
import NextgenBackend.Inventory.Ledger
import NextgenBackend.Utils.Time

namespace NextgenBackend.RoutesOrders

open Txn

open RoutesPayments (addOrderEvent)

open RoutesPos (truthy formatOrderNumber setOrderNumberSequence insertOrder insertOrderRows)

structure StatusUpdateRequest where
  status : String
  reason : Option String
  estimatedReadyMinutes : Option Nat
  minutesInRange : ∀ minutes ∈ estimatedReadyMinutes, 1 ≤ minutes ∧ minutes ≤ 180

def paymentPending (requested : OrderStatus) (loaded : Order) : Bool :=
  requested = .accepted && loaded.paymentRequired

def recordsPending (requested : OrderStatus) (loaded : Order) : Bool :=
  paymentPending requested loaded && loaded.paymentStatus ≠ .pending

def recordStatus (userId : Uuid) (body : StatusUpdateRequest) (requested : OrderStatus)
    (loaded : Order) (now : Instant) (o : Order) : Order :=
  let accepted : Bool := requested = .accepted
  let cancelled : Bool := requested = .cancelled
  let finished : Bool := requested = .collected ∨ requested = .delivered
  { o with
    status := requested
    acceptedAt := if accepted then some now else o.acceptedAt
    estimatedReadyAt :=
      if accepted then body.estimatedReadyMinutes.elim o.estimatedReadyAt fun minutes =>
        some (now + minutes * Time.minute)
      else o.estimatedReadyAt
    readyAt := if requested = .ready then some now else o.readyAt
    completedAt := if finished then some now else o.completedAt
    cancelledReason :=
      if cancelled then assign loaded.cancelledReason body.reason o.cancelledReason
      else o.cancelledReason
    cancelledByUserId :=
      if cancelled then assign loaded.cancelledByUserId (some userId) o.cancelledByUserId
      else o.cancelledByUserId
    paymentStatus :=
      if paymentPending requested loaded then
        assign loaded.paymentStatus .pending o.paymentStatus
      else o.paymentStatus }

def storePaymentLink (order : Order) (link : Option String) : Handler Order := do
  let business ← .read fun db => db.businesses.lookup order.businessId
  let provider := business.bind fun b => getProvider b.paymentProvider
  match provider, link with
  | some _, some url => do
      commit (.storePaymentLink order.id) (Session.stage {} [.order order.id]
        (setOrder order.id fun o =>
          { o with paymentLinkUrl := assign order.paymentLinkUrl (some url) o.paymentLinkUrl }))
      refreshOrder order.id
  | _, _ => pure order

def paymentGate : String :=
  "Payment must be confirmed before the order can move to IN_PROGRESS."

def checkTransition (requested : OrderStatus) (loaded : Order) : Handler Unit := do
  let current := loaded.status.value
  ensure (requested ∈ orderStatusTransitions loaded.status)
    (invalidTransitionError current requested.value none)
  ensure (¬ (requested = .inProgress ∧ loaded.paymentRequired ∧ loaded.paymentStatus ≠ .paid))
    (invalidTransitionError current requested.value (some paymentGate))

def updateOrderStatus (user : AuthUser) (orderId : Uuid) (body : StatusUpdateRequest)
    (link : Option String) : Handler Order := do
  requireStaffOrAbove user
  let loaded ← loadOrder user.businessId orderId
  let requested ← .orFail .unhandled (OrderStatus.ofValue body.status)
  checkTransition requested loaded
  let now ← readNow
  let session := Session.stage {} [.order orderId]
    (setOrder orderId (recordStatus user.userId body requested loaded now))
  let session ← session.stageWhen (requested = .cancelled) fun session => do
    let inventoryEnabled ← .read fun db =>
      (db.businesses.lookup user.businessId).any (·.inventoryEnabled)
    Inventory.reverseConsumptionOnCancel session user.businessId inventoryEnabled orderId
      loaded.status (some user.userId)
  commit (.updateOrderStatus ⟨orderId, some loaded.status, requested, true⟩
      (recordsPending requested loaded))
    (session.stage [] (addOrderEvent
      ⟨orderId, user.businessId, some loaded.status, requested, some user.userId, body.reason⟩))
  let order ← refreshOrder orderId
  if requested = .accepted ∧ order.paymentRequired then do
    let linked ← (storePaymentLink order link).attempt
    pure (linked.toOption.getD order)
  else pure order

structure DeliveryFeeRequest where
  deliveryFeeCents : Cents
  feeNonnegative : 0 ≤ deliveryFeeCents

def deliveryTotals (business : Business) (o : Order) (fee : Cents) : Cents × Cents :=
  let net := max 0 (o.subtotalCents - o.discountCents - o.loyaltyDiscountCents + fee)
  if business.vatRegistered then
    Pricing.applyVatToTotal net business.vatRateBasisPoints business.vatInclusivePricing
  else (net, 0)

def recordDeliveryFee (loaded : Order) (fee : Cents) (totals : Cents × Cents) (o : Order) :
    Order :=
  { o with
    deliveryFeeCents := assign loaded.deliveryFeeCents fee o.deliveryFeeCents
    totalCents := assign loaded.totalCents totals.1 o.totalCents
    taxCents := assign loaded.taxCents totals.2 o.taxCents
    status := .feeSent }

def feeSentContext (orderId : Uuid) (fee : Cents) (context : Context) : Context :=
  { context with
    deliveryFeeCents := some fee
    deliveryFeeStatus := some .feeSent
    pendingOrderId := some orderId }

-- The whole context goes back as it was read, with the fee added.
def offerDeliveryFee (loaded : ConversationSession) (orderId : Uuid) (fee : Cents)
    (conversation : ConversationSession) : ConversationSession :=
  { conversation with
    context := feeSentContext orderId fee loaded.context
    state := assign loaded.state .waitingDeliveryFeeApproval conversation.state }

def askFeeApproval (session : Session) (order : Order) (fee : Cents) :
    Handler (Session × Option FeeOffer) :=
  match order.customerId with
  | none => pure (session, none)
  | some customerId => do
      let conversation ← .read fun db =>
        db.conversationSessions.lookup (order.businessId, customerId)
      let offer : FeeOffer := ⟨order.businessId, customerId, conversation⟩
      match conversation with
      | none => pure (session, some offer)
      | some loaded =>
          pure (session.stage [.conversation order.businessId customerId]
            (setConversation order.businessId customerId (offerDeliveryFee loaded order.id fee)),
            some offer)

def setDeliveryFee (user : AuthUser) (orderId : Uuid) (body : DeliveryFeeRequest) :
    Handler Order := do
  requireStaffOrAbove user
  let loaded ← loadOrder user.businessId orderId
  ensure (loaded.status = .pendingDeliveryFee)
    (invalidTransitionError loaded.status.value "FEE_SENT" none)
  let business ← loadBusiness user.businessId
  let fee := body.deliveryFeeCents
  let totals := deliveryTotals business loaded fee
  let session := Session.stage {} [.order orderId]
    (setOrder orderId (recordDeliveryFee loaded fee totals))
  let session := session.stage [] (addOrderEvent
    ⟨orderId, user.businessId, some .pendingDeliveryFee, .feeSent, some user.userId,
      some (s!"Delivery fee set: {fee} cents")⟩)
  -- The flush writes the order, so its row stays locked until the commit.
  .lock (.order orderId) fun _ => ()
  let (session, offer) ← askFeeApproval session loaded fee
  commit (.setDeliveryFee orderId loaded.amounts ⟨fee, totals.1, totals.2⟩ offer) session
  refreshOrder orderId

structure OrderItemCreate where
  menuItemId : Option Uuid
  selectedOptionIds : List (String × String)
  addOnSelections : List Pos.POSAddOnSelection
  removedIngredientIds : List String
  name : Option String
  priceCents : Option Cents
  qty : Int
  specialInstructions : Option String
  pricingShape : menuItemId = none → (truthy name).isSome ∧ priceCents.isSome
  priceNonnegative : ∀ price ∈ priceCents, 0 ≤ price
  qtyInRange : 1 ≤ qty ∧ qty ≤ 999

structure OrderCreate where
  customerName : Option String
  customerPhone : Option String
  deliveryAddress : Option String
  items : List OrderItemCreate
  notes : Option String
  orderMode : OrderMode
  source : OrderSource
  itemsNonempty : items ≠ []
  sourceAllowed : source ∈ [.manual, .admin, .whatsapp]

def itemInput (item : OrderItemCreate) (menuItemId : Uuid) : Pos.POSItemInput where
  menuItemId := menuItemId
  quantity := item.qty
  selectedOptionIds := item.selectedOptionIds
  addOnSelections := item.addOnSelections
  removedIngredientIds := item.removedIngredientIds
  specialInstructions := item.specialInstructions

def catalogEntries (items : List OrderItemCreate) : List Pos.POSItemInput :=
  items.filterMap fun item => item.menuItemId.map (itemInput item)

structure ItemRow where
  menuItemId : Option Uuid
  nameSnapshot : String
  breakdown : LineItemBreakdown
  selectedOptionsSnapshot : List SelectedOption
  addOnsSnapshot : List SelectedAddOn
  removedIngredientsSnapshot : List RemovableIngredient
  specialInstructions : Option String
  isAdHocPrice : Bool
deriving DecidableEq, Repr

def catalogRow (notes : Option String) (resolved : Pos.ResolvedPOSItem) : ItemRow where
  menuItemId := some resolved.menuItemId
  nameSnapshot := resolved.name
  breakdown := resolved.breakdown
  selectedOptionsSnapshot := resolved.selectedOptionsSnapshot
  addOnsSnapshot := resolved.addOnsSnapshot
  removedIngredientsSnapshot := resolved.removedIngredientsSnapshot
  specialInstructions := (truthy resolved.specialInstructions).or notes
  isAdHocPrice := false

def adHocBreakdown (priceCents : Cents) (qty : Int) : LineItemBreakdown where
  basePriceCents := priceCents
  optionAdjustmentCents := 0
  addOnTotalCents := 0
  unitPriceCents := priceCents
  quantity := qty
  lineTotalCents := qty * priceCents

def adHocRow (notes : Option String) (item : OrderItemCreate) : ItemRow where
  menuItemId := none
  nameSnapshot := item.name.getD ""
  breakdown := adHocBreakdown (item.priceCents.getD 0) item.qty
  selectedOptionsSnapshot := []
  addOnsSnapshot := []
  removedIngredientsSnapshot := []
  specialInstructions := (truthy item.specialInstructions).or notes
  isAdHocPrice := true

def itemRows (notes : Option String) :
    List OrderItemCreate → List Pos.ResolvedPOSItem → List ItemRow
  | [], _ => []
  | item :: items, resolved =>
      match item.menuItemId, resolved with
      | some _, first :: rest => catalogRow notes first :: itemRows notes items rest
      | _, resolved => adHocRow notes item :: itemRows notes items resolved

def rowsSubtotal (rows : List ItemRow) : Cents :=
  (rows.map fun row => row.breakdown.lineTotalCents).sum

def manualDeliveryFee (business : Business) (body : OrderCreate) : Cents :=
  if body.orderMode = .delivery then business.deliveryFeeCents else 0

def manualTotals (business : Business) (subtotalCents deliveryFeeCents : Cents) : Cents × Cents :=
  let net := max 0 (subtotalCents + deliveryFeeCents)
  if business.vatRegistered then
    Pricing.applyVatToTotal net business.vatRateBasisPoints business.vatInclusivePricing
  else (net, 0)

def manualOrder (user : AuthUser) (orderId : Uuid) (body : OrderCreate) (business : Business)
    (rows : List ItemRow) (sequence : Nat) (now : Instant) : Order where
  id := orderId
  businessId := user.businessId
  customerId := none
  orderNumber := formatOrderNumber sequence
  status := .new
  paymentStatus := .pending
  orderMode := body.orderMode
  source := body.source
  subtotalCents := rowsSubtotal rows
  deliveryFeeCents := manualDeliveryFee business body
  taxCents := (manualTotals business (rowsSubtotal rows) (manualDeliveryFee business body)).2
  totalCents := (manualTotals business (rowsSubtotal rows) (manualDeliveryFee business body)).1
  currency := business.currency
  customerName := body.customerName
  phoneNumber := body.customerPhone
  deliveryAddress := body.deliveryAddress
  confirmedAt := some now
  createdAt := now

def manualItem (order : Order) (row : ItemRow) : OrderItem where
  orderId := order.id
  businessId := order.businessId
  menuItemId := row.menuItemId
  nameSnapshot := row.nameSnapshot
  breakdown := row.breakdown
  selectedOptionsSnapshot := row.selectedOptionsSnapshot
  addOnsSnapshot := row.addOnsSnapshot
  removedIngredientsSnapshot := row.removedIngredientsSnapshot
  specialInstructions := row.specialInstructions
  isAdHocPrice := row.isAdHocPrice

def resolveCatalog (businessId : Uuid) (items : List OrderItemCreate) :
    Handler (List Pos.ResolvedPOSItem) :=
  if catalogEntries items = [] then pure []
  else Pos.resolvePosItems businessId (catalogEntries items)

def createOrder (user : AuthUser) (orderId : Uuid) (body : OrderCreate) : Handler Order := do
  requireOwnerOrManager user
  let resolved ← resolveCatalog user.businessId body.items
  let row ← .lock (.business user.businessId) fun db => db.businesses.lookup user.businessId
  let business ← found (notFoundError "Business" none) row
  let sequence := business.orderNumberSequence + 1
  let rows := itemRows body.notes body.items resolved
  let now ← readNow
  let order := manualOrder user orderId body business rows sequence now
  let session := Session.stage {} [.business user.businessId]
    (setOrderNumberSequence user.businessId sequence)
  let session := session.stage [] (insertOrder order)
  let session := session.stage [] (insertOrderRows (rows.map (manualItem order))
    ⟨order.id, user.businessId, none, .new, some user.userId,
      some "Manual order created from dashboard"⟩ [])
  commit (.createOrder orderId) session
  refreshOrder orderId

end NextgenBackend.RoutesOrders
