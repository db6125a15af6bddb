import NextgenBackend.Core.Session
import NextgenBackend.Utils.Time

namespace NextgenBackend.Delivery

open Txn

structure CanonicalDeliveryModifier where
  externalId : Option String
  title : String
  quantity : Int := 1
deriving DecidableEq, Repr

structure CanonicalDeliveryLine where
  externalItemId : Option String
  title : String
  quantity : Int
  unitPriceCents : Option Cents := none
  modifiers : List CanonicalDeliveryModifier := []
deriving DecidableEq, Repr

structure CanonicalDeliveryOrder where
  externalOrderId : String
  lines : List CanonicalDeliveryLine := []
  displayId : Option String := none
  providerStatusRaw : Option String := none
  orderType : Option String := none
  placedAt : Option Instant := none
  currency : String := "ZAR"
  subtotalCents : Option Cents := none
  taxCents : Option Cents := none
  feeCents : Option Cents := none
  totalCents : Option Cents := none
  specialInstructions : Option String := none
  customerFirstName : Option String := none
  customerPhone : Option String := none
  fulfillmentIssues : List String := []
  providerMetadata : List (String × String) := []
deriving DecidableEq, Repr

def CanonicalDeliveryOrder.itemCount (order : CanonicalDeliveryOrder) : Int :=
  (order.lines.map (·.quantity)).sum

structure WebhookEnvelope where
  eventId : String
  eventType : Option String := none
  externalStoreId : Option String := none
  externalOrderId : Option String := none
deriving DecidableEq, Repr

structure WebhookGateResult where
  accepted : Bool
  httpStatus : Nat := 200
  errorCategory : Option String := none
  businessId : Option Uuid := none
  deliveryConnectionId : Option Uuid := none
  detail : Option String := none
deriving DecidableEq, Repr

structure DeliveryOrderContext where
  businessId : Uuid
  connectionId : Option Uuid
  externalStoreId : Option String
  environment : String
deriving DecidableEq, Repr

inductive FetchResult where
  | fetched (order : CanonicalDeliveryOrder)
  | timeout
  | providerError (message : String)
  | unexpected
deriving DecidableEq, Repr

-- A refused call, an error response and a timeout are caught alike.
inductive CallResult where
  | ok
  | providerError
  | unexpected
deriving DecidableEq, Repr

structure DeliveryProviderAdapter where
  fetchOrder : String → DeliveryOrderContext → FetchResult
  acceptOrder : String → DeliveryOrderContext → Uuid → CallResult
  denyOrder : String → DeliveryOrderContext → String → String → CallResult

def openOrderStatuses : List DeliveryOrderStatus :=
  [.received, .fetching, .needsMapping, .readyToAccept]

def deliveryKey (row : DeliveryOrder) : DeliveryKey :=
  ⟨row.businessId, row.provider, row.externalOrderId⟩

def deliveryOrderOf (order : DeliveryKey) (t : Tables) : Option DeliveryOrder :=
  t.deliveryOrders.find? fun row => deliveryKey row = order

-- 'ſ' is the only other character whose capital is a letter of the name.
def upper (c : Char) : Char :=
  if c = 'ſ' then 'S' else c.toUpper

def isWebhookEnabled (provider : String) : Bool :=
  provider.toList.map upper = "UBER_EATS".toList

def isProviderEntitled (business : Business) (provider : String) : Bool :=
  business.deliveryPlatformsEnabled &&
    match provider with
    | "UBER_EATS" => business.uberEatsEnabled
    | "MR_D" => business.mrdEnabled
    | _ => false

def isConnectionLive (connection : DeliveryConnection) : Bool :=
  connection.status = .connected

def resolveDeliveryConnection (provider : String) (externalStoreId : Option String) (t : Tables) :
    Option DeliveryConnection :=
  match externalStoreId with
  | none | some "" => none
  | some externalStoreId =>
      if provider = "" then none else
        t.deliveryConnections.find? fun c =>
          c.provider = provider ∧ c.externalStoreId = some externalStoreId

def setDeliveryOrder (id : Uuid) (set : DeliveryOrder → DeliveryOrder) : Pending := fun t =>
  { t with deliveryOrders := t.deliveryOrders.modify id set }

def enqueue (job : QueuedJob) (db : Database) : Database :=
  { db with jobs := db.jobs ++ [job] }

def dequeue (jobId : Uuid) (db : Database) : Database :=
  { db with jobs := db.jobs.filter fun queued => queued.id ≠ jobId }

def jobKey : DeliveryJob → DeliveryKey
  | .processDeliveryOrder provider businessId externalOrderId _ _ =>
      ⟨businessId, provider, externalOrderId⟩
  | .processDeliveryCancellation provider businessId externalOrderId =>
      ⟨businessId, provider, externalOrderId⟩

structure DeliverySettings where
  uberEatsWebhookEnabled : Bool := false
  deliveryAcceptDeadlineSeconds : Nat := 600
  deliveryDeadlineGraceSeconds : Nat := 90

-- A request as the adapter reads it, with the ids its handling would generate.
structure DeliveryWebhook where
  provider : String
  signatureValid : Bool
  envelope : Option WebhookEnvelope
  environment : Option String := none
  eventRowId : Uuid
  generatedEventId : String
  orderRowId : Uuid
  jobId : Uuid
  enqueues : Bool := true
deriving DecidableEq, Repr

def cancelEventTypes : List String :=
  ["orders.cancel", "orders.failure"]

def isCancelEvent (eventType : Option String) : Bool :=
  eventType.any cancelEventTypes.contains

def eventOf (provider eventId : String) (t : Tables) : Option DeliveryWebhookEvent :=
  t.deliveryWebhookEvents.find? fun e => e.provider = provider ∧ e.eventId = eventId

def insertEvent (event : DeliveryWebhookEvent) : Pending := fun t =>
  { t with deliveryWebhookEvents := t.deliveryWebhookEvents.insert event }

def setEvent (id : Uuid) (set : DeliveryWebhookEvent → DeliveryWebhookEvent) : Pending := fun t =>
  { t with deliveryWebhookEvents := t.deliveryWebhookEvents.modify id set }

def insertDeliveryOrder (row : DeliveryOrder) : Pending := fun t =>
  { t with deliveryOrders := t.deliveryOrders.insert row }

-- An insert that conflicts with one not yet committed waits for it.
def insertEventIdempotent (event : DeliveryWebhookEvent) (session : Session) :
    Handler (Session × Bool) := do
  let existing ← .read fun db => eventOf event.provider event.eventId db.toTables
  if existing.isSome then pure (session, false) else do
    let existing ← .lock (.deliveryWebhookEvent event.provider event.eventId) fun db =>
      eventOf event.provider event.eventId db.toTables
    if existing.isSome then pure (session, false)
    else pure (session.stage [] (insertEvent event), true)

def insertDeliveryOrderIdempotent (row : DeliveryOrder) (session : Session) : Handler Session := do
  let existing ← .read fun db => deliveryOrderOf (deliveryKey row) db.toTables
  if existing.isSome then pure session else do
    let existing ← .lock (.newDeliveryOrder (deliveryKey row)) fun db =>
      deliveryOrderOf (deliveryKey row) db.toTables
    if existing.isSome then pure session
    else pure (session.stage [] (insertDeliveryOrder row))

def eventRow (webhook : DeliveryWebhook) (eventId : String) (envelope : Option WebhookEnvelope)
    (errorCategory : String) (now : Instant) : DeliveryWebhookEvent where
  id := webhook.eventRowId
  provider := webhook.provider
  eventId := eventId
  externalStoreId := envelope.bind (·.externalStoreId)
  eventType := envelope.bind (·.eventType)
  environment := webhook.environment
  signatureValid := webhook.signatureValid
  errorCategory := some errorCategory
  receivedAt := now

def deliveryOrderRow (settings : DeliverySettings) (webhook : DeliveryWebhook)
    (connection : DeliveryConnection) (externalOrderId : String)
    (externalStoreId : Option String) (now : Instant) : DeliveryOrder where
  id := webhook.orderRowId
  businessId := connection.businessId
  provider := webhook.provider
  deliveryConnectionId := some connection.id
  externalOrderId := externalOrderId
  externalStoreId := externalStoreId.getD ""
  rawEventId := some webhook.eventRowId
  acceptDeadlineAt := some (now + settings.deliveryAcceptDeadlineSeconds * Time.second)

def jobOf (provider : String) (businessId : Uuid) (externalOrderId : String)
    (eventType : Option String) : DeliveryJob :=
  if isCancelEvent eventType then
    .processDeliveryCancellation provider businessId externalOrderId
  else .processDeliveryOrder provider businessId externalOrderId eventType false

def databaseError : WebhookGateResult where
  accepted := false
  httpStatus := 503
  errorCategory := some "DB_ERROR"

def commitResult (order : Option DeliveryKey) (session : Session) (result : WebhookGateResult) :
    Handler WebhookGateResult := do
  match ← .tryCommit (.ingestWebhook order) session.touched (Database.write session.pending) with
  | none => pure result
  | some _ => pure databaseError

-- An unverified request and one without an event id are logged under a generated id.
def logRejected (webhook : DeliveryWebhook) (eventId : String) (envelope : Option WebhookEnvelope)
    (errorCategory : String) : Handler WebhookGateResult := do
  let now ← readNow
  let (session, _) ←
    insertEventIdempotent (eventRow webhook eventId envelope errorCategory now) {}
  commit (.ingestWebhook none) session
  pure { accepted := false, errorCategory := some errorCategory }

def isFlushed (session : Session) (db : Database) : Bool :=
  match Database.write session.pending db with
  | .ok _ => true
  | .error _ => false

def enqueueOrder (webhook : DeliveryWebhook) (connection : DeliveryConnection)
    (externalOrderId : String) (eventType : Option String) (session : Session) :
    Handler WebhookGateResult := do
  let job := jobOf webhook.provider connection.businessId externalOrderId eventType
  let flushed ← .read (isFlushed session)
  if flushed = false then do
    rollback
    pure databaseError
  else if webhook.enqueues = false then do
    rollback
    pure
      { accepted := false
        httpStatus := 503
        errorCategory := some "ENQUEUE_FAILED"
        businessId := some connection.businessId }
  else do
    .tell (.enqueueJob ⟨webhook.jobId, job⟩) (enqueue ⟨webhook.jobId, job⟩)
    commitResult (some (jobKey job)) session
      { accepted := true
        errorCategory := some "OK"
        businessId := some connection.businessId
        deliveryConnectionId := some connection.id }

def ingestVerified (settings : DeliverySettings) (webhook : DeliveryWebhook)
    (envelope : WebhookEnvelope) : Handler WebhookGateResult := do
  let now ← readNow
  let (session, inserted) ←
    insertEventIdempotent (eventRow webhook envelope.eventId (some envelope) "PENDING" now) {}
  if inserted = false then do
    commit (.ingestWebhook none) session
    pure { accepted := true, detail := some "duplicate_event" }
  else do
    let connection ← .read fun db =>
      resolveDeliveryConnection webhook.provider envelope.externalStoreId db.toTables
    match connection with
    | none => do
        commit (.ingestWebhook none) (session.stage [] (setEvent webhook.eventRowId fun event =>
          { event with errorCategory := some "UNKNOWN_STORE" }))
        pure { accepted := true, errorCategory := some "UNKNOWN_STORE" }
    | some connection => do
        let session := session.stage [] (setEvent webhook.eventRowId fun event =>
          { event with
            businessId := some connection.businessId
            errorCategory := some "OK" })
        match envelope.externalOrderId.filter (· ≠ "") with
        | none =>
            commitResult none session
              { accepted := true
                errorCategory := some "OK"
                businessId := some connection.businessId
                deliveryConnectionId := some connection.id }
        | some externalOrderId => do
            let session ← insertDeliveryOrderIdempotent (deliveryOrderRow settings webhook
              connection externalOrderId envelope.externalStoreId now) session
            enqueueOrder webhook connection externalOrderId envelope.eventType session

def ingestDeliveryWebhook (settings : DeliverySettings) (webhook : DeliveryWebhook) :
    Handler WebhookGateResult :=
  if isWebhookEnabled webhook.provider = false ∨ settings.uberEatsWebhookEnabled = false then
    pure { accepted := false, errorCategory := some "UNSUPPORTED_PROVIDER" }
  else if webhook.signatureValid = false then
    logRejected webhook ("unverified:" ++ webhook.generatedEventId) webhook.envelope "BAD_SIGNATURE"
  else
    match webhook.envelope.filter fun envelope => envelope.eventId ≠ "" with
    | none => logRejected webhook webhook.generatedEventId none "UNPARSEABLE_PAYLOAD"
    | some envelope => ingestVerified settings webhook envelope

end NextgenBackend.Delivery
