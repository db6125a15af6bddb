import NextgenBackend.Api.RoutesPos.Checkout
import NextgenBackend.Api.RoutesStocktake

namespace NextgenBackend.ExternalOrders

open Txn Inventory

inductive ExternalPlatform where
  | uberEats | mrD | generic
deriving DecidableEq, Repr

def platformToOrderSource : ExternalPlatform → OrderSource
  | .uberEats => .uberEats
  | .mrD => .mrD
  | .generic => .otherExternal

def orderIdPrefix : ExternalPlatform → String
  | .uberEats => "UE"
  | .mrD => "MRD"
  | .generic => "EXT"

def ExternalPlatform.value : ExternalPlatform → String
  | .uberEats => "UBER_EATS"
  | .mrD => "MR_D"
  | .generic => "GENERIC"

def cancelledStatusHints : List String :=
  ["cancel", "refund", "reject", "fail", "void", "declin", "unfulfil", "unfulfill"]

def looksCancelled (status : Option String) : Bool :=
  status.any fun text =>
    cancelledStatusHints.any fun hint => hint.toList <:+: text.toList.map Char.toLower

-- Report lines are matched to the menu by name before they reach the ledger: they come resolved.
structure ResolvedLine where
  externalItemText : String
  quantity : Int
  menuItemId : Option Uuid
  menuItemName : Option String
  optionId : Option String
  optionName : Option String
  addOnIds : List Uuid
  removedRefIds : List String
  unresolvedModifiers : List String
  grossCents : Option Cents
  isIgnored : Bool
  quantityPositive : 0 < quantity

def ResolvedLine.isResolved (line : ResolvedLine) : Bool :=
  line.isIgnored || line.menuItemId.isSome

structure CanonicalExternalOrder where
  orderId : Uuid
  externalOrderId : String
  placedAt : Instant
  status : Option String
  grossCents : Option Cents
  lines : List ResolvedLine

structure ResolvedOrder extends CanonicalExternalOrder where
  isDuplicate : Bool
  isCancelled : Bool
  inClosedPeriod : Bool

def ResolvedOrder.unresolvedItems (order : ResolvedOrder) : List String :=
  (order.lines.filter fun l => ¬ l.isResolved).map (·.externalItemText)

def ResolvedOrder.unresolvedModifiers (order : ResolvedOrder) : List String :=
  order.lines.flatMap (·.unresolvedModifiers)

def ResolvedOrder.blocksImport (order : ResolvedOrder) : Bool :=
  order.unresolvedItems ≠ [] || order.unresolvedModifiers ≠ []

structure ResolutionSummary where
  orders : List ResolvedOrder
  closedPeriodCutoff : Option Instant

namespace ResolutionSummary

def importable (summary : ResolutionSummary) : List ResolvedOrder :=
  summary.orders.filter fun o => !o.isDuplicate && !o.isCancelled && !o.blocksImport

def duplicates (summary : ResolutionSummary) : List ResolvedOrder :=
  summary.orders.filter (·.isDuplicate)

def cancelled (summary : ResolutionSummary) : List ResolvedOrder :=
  summary.orders.filter fun o => o.isCancelled && !o.isDuplicate

def blocked (summary : ResolutionSummary) : List ResolvedOrder :=
  summary.orders.filter fun o => !o.isDuplicate && o.blocksImport

def closedPeriodOrders (summary : ResolutionSummary) : List ResolvedOrder :=
  summary.importable.filter (·.inClosedPeriod)

end ResolutionSummary

def lastApprovedCutoff (businessId : Uuid) (t : Tables) : Option Instant :=
  (RoutesStocktake.previousSession businessId t).map (·.cutoffAt)

def isImported (businessId : Uuid) (source : OrderSource) (t : Tables) (externalOrderId : String) :
    Bool :=
  t.orders.any fun o =>
    o.businessId = businessId ∧ o.source = source ∧ o.externalOrderId = some externalOrderId

def resolveOrders (businessId : Uuid) (platform : ExternalPlatform)
    (orders : List CanonicalExternalOrder) (t : Tables) : ResolutionSummary :=
  let cutoff := lastApprovedCutoff businessId t
  { closedPeriodCutoff := cutoff
    orders := orders.map fun o =>
      { o with
        isDuplicate := isImported businessId (platformToOrderSource platform) t o.externalOrderId
        isCancelled := looksCancelled o.status
        inClosedPeriod := cutoff.any fun cutoff => o.placedAt ≤ cutoff } }

def optionsSnapshot (line : ResolvedLine) : List SelectedOption :=
  match line.optionId.filter (· ≠ "") with
  | some optionId => [⟨"size", "Size", optionId,
      (line.optionName.filter (· ≠ "")).getD optionId, 0⟩]
  | none => []

def importedItem (line : ResolvedLine) (menuItemId : Uuid) : Pos.ResolvedPOSItem where
  menuItemId := menuItemId
  name := line.menuItemName.getD line.externalItemText
  breakdown :=
    { basePriceCents := 0
      optionAdjustmentCents := 0
      addOnTotalCents := 0
      unitPriceCents := (line.grossCents.getD 0).tdiv line.quantity
      quantity := line.quantity
      lineTotalCents := line.grossCents.getD 0 }
  selectedOptionsSnapshot := optionsSnapshot line
  addOnsSnapshot := line.addOnIds.map fun id => ⟨id, "", 0, 1⟩
  removedIngredientsSnapshot := line.removedRefIds.map fun id => ⟨id, ""⟩
  specialInstructions := some line.externalItemText
  requiresPreparation := false

def importedItems (order : CanonicalExternalOrder) : List Pos.ResolvedPOSItem :=
  order.lines.filterMap fun line =>
    if line.isIgnored then none else line.menuItemId.map (importedItem line)

def importedOrder (user : AuthUser) (business : Business) (platform : ExternalPlatform)
    (now : Instant) (order : CanonicalExternalOrder) : Order :=
  let gross := order.grossCents.getD 0
  { id := order.orderId
    businessId := user.businessId
    customerId := none
    orderNumber := String.ofList
      ((orderIdPrefix platform ++ "-" ++ order.externalOrderId).toList.take 32)
    status := .completed
    paymentStatus := .paid
    paymentMethod := some .externalPlatform
    paidAt := some order.placedAt
    source := platformToOrderSource platform
    orderMode := .delivery
    subtotalCents := gross
    deliveryFeeCents := 0
    taxCents := if business.vatRegistered then
      Pricing.calculateVatCents gross business.vatRateBasisPoints true else 0
    totalCents := gross
    currency := business.currency
    externalOrderId := some order.externalOrderId
    externalPlacedAt := some order.placedAt
    externalStatus := order.status
    createdByUserId := some user.userId
    confirmedAt := some order.placedAt
    completedAt := some order.placedAt
    createdAt := now }

def closedAt (cutoff : Option Instant) (order : ResolvedOrder) : Option Instant :=
  cutoff.filter fun cutoff => order.placedAt ≤ cutoff

def importReason (platform : ExternalPlatform) (cutoff : Option Instant) (order : ResolvedOrder) :
    String :=
  match closedAt cutoff order with
  | some cutoff => "Ordered " ++ Time.isoText order.placedAt ++
      ", inside the stocktake period closed at " ++ Time.isoText cutoff ++
      ". Stock was recorded immediately after the cut-off so the approved count stays unchanged and the ingredients are not lost."
  | none => "Imported from " ++ platform.value ++ " order " ++ order.externalOrderId

def movementAt (cutoff : Option Instant) (order : ResolvedOrder) : Instant :=
  (closedAt cutoff order).elim order.placedAt (· + Time.second)

def importOrder (user : AuthUser) (business : Business) (platform : ExternalPlatform)
    (cutoff : Option Instant) (now : Instant) (session : Session) (resolved : ResolvedOrder) :
    Handler Session := do
  let order := importedOrder user business platform now resolved.toCanonicalExternalOrder
  let items := importedItems resolved.toCanonicalExternalOrder
  let session := session.stage [] (RoutesPos.insertOrder order)
  let session := session.stage [] (RoutesPos.insertOrderRows
    (items.map (RoutesPos.orderItem order))
    ⟨order.id, user.businessId, none, .completed, some user.userId,
      some (importReason platform cutoff resolved)⟩ [])
  session.stageWhen (items ≠ [] ∧ business.inventoryEnabled) fun session =>
    postSaleConsumption session user.businessId order.id (some user.userId)
      (items.map lineSpec) (movementAt cutoff resolved)

def importResolvedOrders (user : AuthUser) (business : Business) (platform : ExternalPlatform)
    (cutoff : Option Instant) (now : Instant) : List ResolvedOrder → Session → Handler Session
  | [], session => pure session
  | resolved :: candidates, session => do
      let session ← importOrder user business platform cutoff now session resolved
      importResolvedOrders user business platform cutoff now candidates session

structure ImportRequest where
  platform : ExternalPlatform
  orders : List CanonicalExternalOrder
  includeCancelled : Bool
  acknowledgeClosedPeriod : Bool

def candidates (body : ImportRequest) (summary : ResolutionSummary) : List ResolvedOrder :=
  (summary.importable ++
    if body.includeCancelled then summary.cancelled.filter fun o => !o.blocksImport else []).filter
      fun o => !o.inClosedPeriod || body.acknowledgeClosedPeriod

structure ImportOutcome where
  ordersCreated : Nat
  itemsCreated : Nat
  duplicatesSkipped : Nat
  grossCents : Cents
  backdatedIntoClosedPeriod : Nat
deriving DecidableEq, Repr

def outcome (summary : ResolutionSummary) (imported : List ResolvedOrder) : ImportOutcome where
  ordersCreated := imported.length
  itemsCreated := (imported.map fun o => (importedItems o.toCanonicalExternalOrder).length).sum
  duplicatesSkipped := summary.duplicates.length
  grossCents := (imported.map fun o => o.grossCents.getD 0).sum
  backdatedIntoClosedPeriod := (imported.filter (·.inClosedPeriod)).length

def commitExternalOrders (user : AuthUser) (body : ImportRequest) : Handler ImportOutcome := do
  requireOwnerOrManager user
  let business ← loadBusiness user.businessId
  ensure business.deliveryReconciliationEnabled ⟨"DELIVERY_RECONCILIATION_NOT_ENABLED",
    "Delivery reconciliation is not enabled for this business", 409, []⟩
  let summary ← .read fun db => resolveOrders user.businessId body.platform body.orders db.toTables
  ensure (summary.blocked = []) ⟨"UNRESOLVED_ITEMS",
    "Some items are not linked to your menu yet. Nothing was imported — map them first, otherwise your stock figures would be wrong.",
    422, summary.blocked.map fun o => ("blocked_orders", o.externalOrderId)⟩
  let closed := summary.closedPeriodOrders.length
  ensure (summary.closedPeriodOrders = [] ∨ body.acknowledgeClosedPeriod)
    ⟨"CLOSED_STOCKTAKE_PERIOD",
      s!"{closed} order(s) were placed before your last approved stocktake. That count is signed off and will not be changed. Confirm to import them — their stock will be recorded just after the cut-off so the ingredients are not lost.",
      409, summary.closedPeriodOrders.map fun o => ("orders", o.externalOrderId)⟩
  let now ← readNow
  let imported := candidates body summary
  let session ← importResolvedOrders user business body.platform summary.closedPeriodCutoff now
    imported {}
  commit (.importOrders (imported.map (·.orderId))) session
  pure (outcome summary imported)

section Frames

variable {sites : CommitSite → Prop} {N : Pending → Prop} {user : AuthUser}

theorem importOrder_stages {business : Business} {platform : ExternalPlatform}
    {cutoff : Option Instant} {now : Instant} {resolved : ResolvedOrder} {session : Session}
    (hN : Neutral N) (horder : N (RoutesPos.insertOrder
      (importedOrder user business platform now resolved.toCanonicalExternalOrder)))
    (hrows : ∀ items event, N (RoutesPos.insertOrderRows items event []))
    (hmovements : ∀ movements, N (appendMovements movements)) :
    (importOrder user business platform cutoff now session resolved).ReadOnly
      (session.Extends N) := by
  have hinserted (touched touched' : List RowKey) (items : List OrderItem) (event : OrderEvent) :
      session.Extends N ((session.stage touched (RoutesPos.insertOrder (importedOrder user business
        platform now resolved.toCanonicalExternalOrder))).stage touched'
          (RoutesPos.insertOrderRows items event [])) :=
    hN.trans (Session.extends_stage horder) (Session.extends_stage (hrows items event))
  unfold importOrder
  dsimp only [Session.stageWhen]
  split
  · refine Conforms.mono (postSaleConsumption_stages hN hmovements) (fun _ _ _ => id)
      fun session' hs => ?_
    exact hN.trans (hinserted _ _ _ _) hs
  · exact hinserted _ _ _ _

theorem importResolvedOrders_stages {business : Business} {platform : ExternalPlatform}
    {cutoff : Option Instant} {now : Instant} {orders : List ResolvedOrder} {session : Session}
    (hN : Neutral N) (horder : ∀ o ∈ orders, N (RoutesPos.insertOrder
      (importedOrder user business platform now o.toCanonicalExternalOrder)))
    (hrows : ∀ items event, N (RoutesPos.insertOrderRows items event []))
    (hmovements : ∀ movements, N (appendMovements movements)) :
    (importResolvedOrders user business platform cutoff now orders session).ReadOnly
      (session.Extends N) := by
  induction orders generalizing session with
  | nil => exact hN.refl
  | cons resolved orders ih =>
      refine conforms_bind (importOrder_stages hN (horder resolved List.mem_cons_self) hrows
        hmovements) fun session' hs => ?_
      refine Conforms.mono (ih fun o ho => horder o (List.mem_cons_of_mem _ ho))
        (fun _ _ _ => id) fun session'' hs' => ?_
      exact hN.trans hs hs'

theorem commitExternalOrders_writes {body : ImportRequest} (hN : Neutral N)
    (hsite : ∀ orderIds, sites (.importOrders orderIds))
    (horder : ∀ business now o, N (RoutesPos.insertOrder
      (importedOrder user business body.platform now o)))
    (hrows : ∀ items event, N (RoutesPos.insertOrderRows items event []))
    (hmovements : ∀ movements, N (appendMovements movements)) :
    Writes sites N (commitExternalOrders user body) := by
  refine writes_seq readOnly_requireOwnerOrManager fun _ => ?_
  refine writes_seq readOnly_loadBusiness fun business => ?_
  refine writes_seq readOnly_ensure fun _ => ?_
  refine writes_seq readOnly_read fun summary => ?_
  refine writes_seq readOnly_ensure fun _ => ?_
  refine writes_seq readOnly_ensure fun _ => ?_
  refine writes_seq readOnly_readNow fun now => ?_
  refine writes_staged (importResolvedOrders_stages hN (fun o _ => horder _ _ _) hrows hmovements)
    fun session hs => ?_
  exact writes_bind (writes_commit (hsite _) hs) fun _ => writes_done _

end Frames

end NextgenBackend.ExternalOrders
