import NextgenBackend.Delivery.Intake
import NextgenBackend.ExternalOrders.Service

namespace NextgenBackend.Delivery

open Txn Inventory

def misconfigDenyCode : String := "STORE_CLOSED"

def loadLockedRow (order : DeliveryKey) : Handler (Option DeliveryOrder) := do
  match ← .read fun db => deliveryOrderOf order db.toTables with
  | none => pure none
  | some row =>
      .lock (.deliveryOrder row.id) fun db =>
        (db.deliveryOrders.lookup row.id).filter fun row => deliveryKey row = order

def rowSession (id : Uuid) (set : DeliveryOrder → DeliveryOrder) : Session :=
  Session.stage {} [.deliveryOrder id] (setDeliveryOrder id set)

def denyContext (row : DeliveryOrder) (connection : Option DeliveryConnection) :
    DeliveryOrderContext where
  businessId := row.businessId
  connectionId := connection.map (·.id)
  externalStoreId := some row.externalStoreId
  environment := connection.elim "production" (·.environment)

def denied (now : Instant) (reasonCode explanation : String) (row : DeliveryOrder) :
    DeliveryOrder :=
  { row with
    status := .denied
    deniedAt := some now
    denyReasonCode := some reasonCode
    denyReasonText := some explanation }

-- What the row becomes once the provider was told, whatever it answered.
def issueDeny (adapter : DeliveryProviderAdapter) (row : DeliveryOrder)
    (connection : Option DeliveryConnection) (reasonCode explanation : String) :
    Handler (DeliveryOrder → DeliveryOrder) := do
  match adapter.denyOrder row.externalOrderId (denyContext row connection) reasonCode explanation with
  | .unexpected => .fail .unhandled
  | _ => do
      let now ← readNow
      pure (denied now reasonCode explanation)

def findMisconfiguration (connection : Option DeliveryConnection) (business : Option Business)
    (webhookEvent : Option DeliveryWebhookEvent) (provider : String) :
    Except String (DeliveryConnection × Business) :=
  match connection, business with
  | none, _ => .error "CONNECTION_MISSING"
  | some connection, business =>
      if ((webhookEvent.bind (·.environment)).filter (· ≠ "")).any (· ≠ connection.environment) then
        .error "ENV_MISMATCH"
      else
        match business.filter (·.isActive) with
        | none => .error "TENANT_INACTIVE"
        | some business =>
            if isProviderEntitled business provider = false then .error "ENTITLEMENT_OFF"
            else if isConnectionLive connection = false then .error "CONNECTION_NOT_LIVE"
            else .ok (connection, business)

def buildSnapshot (canonical : CanonicalDeliveryOrder) : DeliverySnapshot where
  displayId := canonical.displayId
  orderType := canonical.orderType
  itemCount := canonical.itemCount
  subtotalCents := canonical.subtotalCents
  taxCents := canonical.taxCents
  feeCents := canonical.feeCents
  totalCents := canonical.totalCents
  fulfillmentIssues := canonical.fulfillmentIssues
  providerMetadata := canonical.providerMetadata

def normaliseKey (text : String) : String :=
  let words := (text.toList.map Char.toLower).splitOnP Char.isWhitespace
  " ".intercalate ((words.filter (· ≠ [])).map String.ofList)

structure ResolvedDeliveryLine where
  canonical : CanonicalDeliveryLine
  menuItem : Option (Uuid × String) := none
  addOnIds : List Uuid := []
  unresolved : List String := []
  isIgnored : Bool := false
deriving DecidableEq, Repr

def ResolvedDeliveryLine.isResolved (line : ResolvedDeliveryLine) : Bool :=
  line.isIgnored || line.menuItem.isSome

def blocksImport (lines : List ResolvedDeliveryLine) : Bool :=
  lines.any fun line => !line.isResolved || line.unresolved ≠ []

def unresolvedNames (lines : List ResolvedDeliveryLine) : List String :=
  lines.flatMap fun line =>
    (if line.isResolved then [] else [line.canonical.title]) ++ line.unresolved

def deliveryMapping (businessId : Uuid) (provider : String) (kind : ExternalMappingKind)
    (externalId : Option String) (t : Tables) : Option ExternalProductMapping :=
  match externalId with
  | none | some "" => none
  | some externalId => t.externalProductMappings.reverse.find? fun m =>
      m.businessId = businessId ∧ m.platform = provider ∧ m.kind = kind ∧
        m.externalId = some externalId

def menuItems (businessId : Uuid) (t : Tables) : Table MenuItem :=
  t.menuItems.filter fun m => m.businessId = businessId ∧ m.isDeleted = false

def addOns (businessId : Uuid) (t : Tables) : Table MenuAddOn :=
  t.menuAddOns.filter fun a => a.businessId = businessId ∧ a.isDeleted = false

def resolveModifier (businessId : Uuid) (provider : String) (t : Tables)
    (line : ResolvedDeliveryLine) (modifier : CanonicalDeliveryModifier) : ResolvedDeliveryLine :=
  let mapping := deliveryMapping businessId provider .modifier modifier.externalId t
  let mapped := (mapping.bind (·.menuAddOnId)).bind (Table.lookup (addOns businessId t))
  let named := (addOns businessId t).reverse.find? fun a =>
    normaliseKey a.name = normaliseKey modifier.title
  if mapping.any (·.isIgnored) then line
  else
    match mapped.or named with
    | some addOn => { line with addOnIds := line.addOnIds ++ [addOn.id] }
    | none => { line with unresolved := line.unresolved ++ [modifier.title] }

def resolveDeliveryLine (businessId : Uuid) (provider : String) (t : Tables)
    (line : CanonicalDeliveryLine) : ResolvedDeliveryLine :=
  let mapping := deliveryMapping businessId provider .item line.externalItemId t
  let mapped := (mapping.bind (·.menuItemId)).bind (Table.lookup (menuItems businessId t))
  let named := (menuItems businessId t).reverse.find? fun m =>
    normaliseKey m.name = normaliseKey line.title
  let isIgnored := mapping.any (·.isIgnored)
  line.modifiers.foldl (resolveModifier businessId provider t)
    { canonical := line
      menuItem := if isIgnored then none else (mapped.or named).map fun m => (m.id, m.name)
      isIgnored := isIgnored }

def resolveDeliveryLines (businessId : Uuid) (provider : String)
    (canonical : CanonicalDeliveryOrder) (t : Tables) : List ResolvedDeliveryLine :=
  canonical.lines.map (resolveDeliveryLine businessId provider t)

def orderIdPrefix : String → String
  | "UBER_EATS" => "UE"
  | "MR_D" => "MRD"
  | _ => "EXT"

def platformToOrderSource : String → OrderSource
  | "UBER_EATS" => .uberEats
  | "MR_D" => .mrD
  | _ => .otherExternal

def orderCurrency (canonical : CanonicalDeliveryOrder) (business : Business) : String :=
  if canonical.currency ≠ "" then canonical.currency
  else if business.currency ≠ "" then business.currency else "ZAR"

def orderFromCanonical (id : Uuid) (business : Business) (provider : String)
    (canonical : CanonicalDeliveryOrder) (now : Instant) : Order :=
  let gross := canonical.totalCents.getD 0
  { id := id
    businessId := business.id
    customerId := none
    orderNumber := String.ofList
      ((orderIdPrefix provider ++ "-" ++ canonical.externalOrderId).toList.take 32)
    status := .accepted
    paymentStatus := .paid
    paymentMethod := some .externalPlatform
    paidAt := some (canonical.placedAt.getD now)
    source := platformToOrderSource provider
    orderMode := .delivery
    subtotalCents := gross
    deliveryFeeCents := 0
    taxCents := if business.vatRegistered then
      Pricing.calculateVatCents gross business.vatRateBasisPoints true else 0
    totalCents := gross
    currency := orderCurrency canonical business
    customerName := canonical.customerFirstName
    phoneNumber := canonical.customerPhone
    specialInstructions := canonical.specialInstructions
    externalOrderId := some canonical.externalOrderId
    externalPlacedAt := canonical.placedAt
    externalStatus := canonical.providerStatusRaw
    confirmedAt := some (canonical.placedAt.getD now)
    acceptedAt := some now
    createdAt := now }

def resolvedItem (provider : String) (line : ResolvedDeliveryLine) (menuItem : Uuid × String) :
    Pos.ResolvedPOSItem where
  menuItemId := menuItem.1
  name := if menuItem.2 ≠ "" then menuItem.2 else line.canonical.title
  breakdown :=
    { basePriceCents := 0
      optionAdjustmentCents := 0
      addOnTotalCents := 0
      unitPriceCents := line.canonical.unitPriceCents.getD 0
      quantity := line.canonical.quantity
      lineTotalCents := line.canonical.unitPriceCents.getD 0 * line.canonical.quantity }
  selectedOptionsSnapshot := []
  addOnsSnapshot := line.addOnIds.map fun id => ⟨id, "", 0, 1⟩
  removedIngredientsSnapshot := []
  specialInstructions := some (provider ++ ": " ++ line.canonical.title)
  requiresPreparation := false

def resolvedItems (provider : String) (lines : List ResolvedDeliveryLine) :
    List Pos.ResolvedPOSItem :=
  lines.filterMap fun line =>
    if line.isIgnored then none else line.menuItem.map (resolvedItem provider line)

def createOrderFromCanonical (id : Uuid) (business : Business) (provider : String)
    (canonical : CanonicalDeliveryOrder) (lines : List ResolvedDeliveryLine) (session : Session) :
    Handler Session := do
  let now ← readNow
  let order := orderFromCanonical id business provider canonical now
  let session := session.stage [] (RoutesPos.insertOrder order)
  flush session
  let items := resolvedItems provider lines
  let session := session.stage [] (RoutesPos.insertOrderRows
    (items.map (RoutesPos.orderItem order))
    ⟨order.id, business.id, none, .accepted, none,
      some ("Accepted via " ++ provider ++ " order " ++ canonical.externalOrderId)⟩ [])
  session.stageWhen (items ≠ [] ∧ business.inventoryEnabled) fun session =>
    postSaleConsumption session business.id order.id none (items.map lineSpec)
      (canonical.placedAt.getD now)

def cancelOrder (order : DeliveryKey) (o : Order) : Order :=
  { o with
    status := .cancelled
    cancelledReason :=
      some ("Cancelled by " ++ order.provider ++ " (" ++ order.externalOrderId ++ ")") }

def cancellationEvent (order : DeliveryKey) (o : Order) : OrderEvent where
  orderId := o.id
  businessId := order.businessId
  oldStatus := some o.status
  newStatus := .cancelled
  changedByUserId := none
  reason := some "Delivery marketplace reported this order cancelled. Stock is NOT automatically reversed — a financial cancellation says nothing about whether the kitchen had already made the food (DECISIONS.md)."

def stageCancellation (order : DeliveryKey) (o : Option Order) (session : Session) : Session :=
  match o.filter fun o => o.status ≠ .cancelled with
  | none => session
  | some o =>
      let session := session.stage [.order o.id] (setOrder o.id (cancelOrder order))
      session.stage [] (RoutesPayments.addOrderEvent (cancellationEvent order o))

def handleCancellation (order : DeliveryKey) : Handler Unit := do
  match ← loadLockedRow order with
  | none => pure ()
  | some row =>
      if row.status ∈ [.cancelled, .denied, .failed] then pure () else do
        let now ← readNow
        let session := rowSession row.id fun row =>
          { row with
            status := .cancelled
            cancelledAt := some now }
        let o ← .read fun db => row.orderId.bind db.orders.lookup
        commit (.processDeliveryCancellation row.id) (stageCancellation order o session)

-- One attempt at the job: the provider's answers and the id its order would get.
structure Execution where
  adapter : DeliveryProviderAdapter
  newOrderId : Uuid

def saveRow (row : DeliveryOrder) (forceAccept : Bool) (status : DeliveryOrderStatus)
    (set : DeliveryOrder → DeliveryOrder) : Handler Unit :=
  commit (.processDeliveryOrder row.id forceAccept status none) (rowSession row.id set)

def fetching (row : DeliveryOrder) : DeliveryOrder :=
  { row with status := .fetching }

def failedBecause (reason : String) (row : DeliveryOrder) : DeliveryOrder :=
  { row with failureReason := some reason }

def recordFetched (canonical : CanonicalDeliveryOrder) (row : DeliveryOrder) : DeliveryOrder :=
  { row with
    placedAt := canonical.placedAt
    grossCents := canonical.totalCents
    feeCents := canonical.feeCents
    currency := if canonical.currency ≠ "" then canonical.currency else row.currency
    fetchedOrderSnapshot := some (buildSnapshot canonical) }

def noneText (amount : Option Cents) : String :=
  amount.elim "None" toString

def unpriceableReason (canonical : CanonicalDeliveryOrder) : String :=
  "Order total could not be priced (total_cents=" ++ noneText canonical.totalCents ++
    ") — refusing to book a sale the platform cannot price."

def acceptCallFailed : String :=
  "accept_pos_order call failed after the sale was created locally"

def acceptIntoKitchen (execution : Execution) (row : DeliveryOrder) (business : Business)
    (context : DeliveryOrderContext) (canonical : CanonicalDeliveryOrder)
    (lines : List ResolvedDeliveryLine) (forceAccept : Bool) : Handler Unit := do
  let attached := fun row => { recordFetched canonical (fetching row) with
    orderId := some execution.newOrderId }
  let session ← createOrderFromCanonical execution.newOrderId business row.provider canonical lines {}
  flush (session.stage [.deliveryOrder row.id] (setDeliveryOrder row.id attached))
  match execution.adapter.acceptOrder row.externalOrderId context execution.newOrderId with
  | .unexpected => .fail .unhandled
  | .ok => do
      let now ← readNow
      commit (.processDeliveryOrder row.id forceAccept .accepted (some execution.newOrderId))
        (session.stage [.deliveryOrder row.id] (setDeliveryOrder row.id fun row =>
          { attached row with
            status := .accepted
            acceptedAt := some now }))
  | .providerError =>
      commit (.processDeliveryOrder row.id forceAccept .fetching (some execution.newOrderId))
        (session.stage [.deliveryOrder row.id]
          (setDeliveryOrder row.id fun row => failedBecause acceptCallFailed (attached row)))

def resolveFetched (execution : Execution) (row : DeliveryOrder) (connection : DeliveryConnection)
    (business : Business) (context : DeliveryOrderContext) (canonical : CanonicalDeliveryOrder)
    (forceAccept : Bool) : Handler Unit := do
  if canonical.totalCents.all (· ≤ 0) then do
    let deny ← issueDeny execution.adapter row (some connection) "PRICING"
      "NextGen could not determine this order's total from the provider response."
    saveRow row forceAccept .denied fun row =>
      deny (failedBecause (unpriceableReason canonical) (recordFetched canonical (fetching row)))
  else do
    let lines ← .read fun db =>
      resolveDeliveryLines row.businessId row.provider canonical db.toTables
    if blocksImport lines then
      saveRow row forceAccept .needsMapping fun row =>
        { recordFetched canonical (fetching row) with
          status := .needsMapping
          unresolvedItems := some (unresolvedNames lines) }
    else if forceAccept = false ∧ connection.autoAcceptEnabled = false then
      saveRow row forceAccept .readyToAccept fun row =>
        { recordFetched canonical (fetching row) with status := .readyToAccept }
    else
      acceptIntoKitchen execution row business context canonical lines forceAccept

def handleReceived (execution : Execution) (row : DeliveryOrder) (forceAccept : Bool) :
    Handler Unit := do
  let connection ← .read fun db => row.deliveryConnectionId.bind db.deliveryConnections.lookup
  let business ← .read fun db => db.businesses.lookup row.businessId
  let webhookEvent ← .read fun db => row.rawEventId.bind db.deliveryWebhookEvents.lookup
  match findMisconfiguration connection business webhookEvent row.provider with
  | .error misconfig => do
      let deny ← issueDeny execution.adapter row connection misconfigDenyCode
        ("NextGen configuration issue: " ++ misconfig)
      saveRow row forceAccept .denied fun row =>
        deny (failedBecause misconfig { row with status := .failed })
  | .ok (connection, business) => do
      let context : DeliveryOrderContext :=
        ⟨row.businessId, some connection.id, connection.externalStoreId, connection.environment⟩
      flush (rowSession row.id fetching)
      match execution.adapter.fetchOrder row.externalOrderId context with
      | .unexpected => .fail .unhandled
      | .timeout => do
          saveRow row forceAccept .received fun row => { fetching row with status := .received }
          .fail .deliveryProviderTimeout
      | .providerError message => do
          let deny ← issueDeny execution.adapter row (some connection) "POS_NOT_READY"
            ("NextGen could not fetch this order's details: " ++ message)
          saveRow row forceAccept .denied fun row =>
            deny (failedBecause ("fetch_order failed: " ++ message) (fetching row))
      | .fetched canonical =>
          resolveFetched execution row connection business context canonical forceAccept

def handleOrder (execution : Execution) (order : DeliveryKey) (eventType : Option String)
    (forceAccept : Bool) : Handler Unit := do
  if isCancelEvent eventType then handleCancellation order else do
    match ← loadLockedRow order with
    | none => pure ()
    | some row =>
        if row.status ≠ .received then pure ()
        else handleReceived execution row forceAccept

-- Only a timeout is raised again; every other exception ends the job after its rollback.
def runJob (execution : Execution) : DeliveryJob → Handler (Option Failure)
  | .processDeliveryOrder provider businessId externalOrderId eventType forceAccept => do
      match ← (handleOrder execution ⟨businessId, provider, externalOrderId⟩ eventType
          forceAccept).attempt with
      | .ok () => pure none
      | .error fault => do
          rollback
          pure (if fault = .deliveryProviderTimeout then some fault else none)
  | .processDeliveryCancellation provider businessId externalOrderId => do
      match ← (handleCancellation ⟨businessId, provider, externalOrderId⟩).attempt with
      | .ok () => pure none
      | .error _ => do
          rollback
          pure none

-- The worker keeps a job on the queue while it runs, and after it if the job is to be retried.
def work (execution : Execution) (jobId : Uuid) (retries : Bool) : Handler Unit := do
  match ← .read fun db => db.jobs.find? fun queued => queued.id = jobId with
  | none => pure ()
  | some queued => do
      let raised ← runJob execution queued.job
      if raised.isSome ∧ retries then pure ()
      else .tell (.finishJob jobId) (dequeue jobId)

def watchdogBatchLimit : Nat := 100

def isDue (settings : DeliverySettings) (now : Instant) (row : DeliveryOrder) : Bool :=
  row.status ∈ openOrderStatuses &&
    row.acceptDeadlineAt.any fun deadline =>
      deadline + settings.deliveryDeadlineGraceSeconds * Time.second ≤ now

def watchdogDenial (now : Instant) (row : DeliveryOrder) : DeliveryOrder :=
  denied now "OTHER" "Accept/deny deadline missed — auto-denied by the accept-deadline watchdog." row

def claimRows (settings : DeliverySettings) (now : Instant) :
    List Uuid → List Uuid → Session → Handler (List Uuid × Session)
  | [], claimed, session => pure (claimed, session)
  | id :: ids, claimed, session => do
      let row ← .lock (.deliveryOrder id) fun db => db.deliveryOrders.lookup id
      if row.any (isDue settings now) then
        claimRows settings now ids (claimed ++ [id])
          (session.stage [.deliveryOrder id] (setDeliveryOrder id (watchdogDenial now)))
      else claimRows settings now ids claimed session

-- The rows are those that the query found unlocked; the provider is told after the commit.
def deliveryAcceptDeadlineWatchdog (settings : DeliverySettings) (rows : List Uuid) :
    Handler Unit := do
  let now ← readNow
  let (claimed, session) ← claimRows settings now (rows.take watchdogBatchLimit) [] {}
  if claimed = [] then pure ()
  else do
    let fault ← .tryCommit (.deliveryAcceptDeadlineWatchdog claimed) session.touched
      (Database.write session.pending)
    pure (fault.elim () fun _ => ())

end NextgenBackend.Delivery
