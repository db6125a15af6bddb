import NextgenBackend.Api.RoutesPayments
import NextgenBackend.Api.RoutesPos.Reversal
import NextgenBackend.Payments.Providers

namespace NextgenBackend.RoutesPos

open Txn

open RoutesPayments (setIntent expireIntent)

structure POSPaymentIntentCreateRequest where
  amountCents : Cents
  customerPhone : String
  amountPositive : 0 < amountCents

def posLinkProvider (business : Business) : Option String :=
  if business.posYocoEnabled then some "YOCO"
  else if business.posPayfastEnabled then some "PAYFAST"
  else none

def microsecondsPerMinute : Nat := 60000000

def newPaymentIntent (user : AuthUser) (intentId : Uuid) (business : Business)
    (till : TillSession) (provider : String) (amountCents : Cents) (phone : Option String)
    (link : Option PaymentLink) (now : Instant) : POSPaymentLinkIntent where
  id := intentId
  businessId := user.businessId
  tillSessionId := some till.id
  createdByUserId := some user.userId
  amountCents := amountCents
  currency := if business.currency = "" then "ZAR" else business.currency
  provider := provider
  status := if link.isSome then .pending else .failed
  paymentLinkUrl := link
  customerPhone := phone
  createdAt := now
  expiresAt := now + 15 * microsecondsPerMinute

def insertIntent (intent : POSPaymentLinkIntent) : Pending := fun t =>
  { t with intents := t.intents.insert intent }

def refreshIntent (intentId : Uuid) : Handler POSPaymentLinkIntent := do
  let row ← .read fun db => db.intents.lookup intentId
  found (notFoundError "POSPaymentLinkIntent" (some intentId)) row

def createPosPaymentIntent (settings : Payments.Settings) (hostedUrl : Option String)
    (user : AuthUser) (intentId : Uuid) (body : POSPaymentIntentCreateRequest) :
    Handler POSPaymentLinkIntent := do
  requirePosEnabled user
  requireStaffOrAbove user
  let business ← loadBusiness user.businessId
  let till ← .read fun db => openTillSession user.businessId db.toTables
  let till ← found ⟨"TILL_NOT_OPEN", "Open the till before requesting a payment link", 409, []⟩ till
  let provider ← found ⟨"PAY_BY_LINK_NOT_AVAILABLE",
    "No Pay-by-Link-eligible payment provider (Yoco or PayFast) is configured for this business",
    409, []⟩ (posLinkProvider business)
  -- A number that does not normalise is stored as none: the normaliser never raises.
  let phone := Phone.normalizeSaMobile body.customerPhone
  let now ← readNow
  let link ← RoutesPayments.raised (Payments.createPaymentLink settings hostedUrl provider business
    none (some body.amountCents) (some (Payments.posIntentPrefix ++ Payments.uuidText intentId)))
  commit (.createPaymentLinkIntent intentId) (Session.stage {} [] (insertIntent
    (newPaymentIntent user intentId business till provider body.amountCents phone link now)))
  refreshIntent intentId

def loadPosPaymentIntent (businessId intentId : Uuid) : Handler POSPaymentLinkIntent := do
  let row ← .read fun db =>
    (db.intents.lookup intentId).filter fun i => i.businessId = businessId
  found (notFoundError "POSPaymentLinkIntent" (some intentId)) row

def loadPosPaymentIntentForUpdate (businessId intentId : Uuid) : Handler POSPaymentLinkIntent := do
  let row ← .lock (.intent intentId) fun db =>
    (db.intents.lookup intentId).filter fun i => i.businessId = businessId
  found (notFoundError "POSPaymentLinkIntent" (some intentId)) row

def maybeExpire (intent : POSPaymentLinkIntent) (now : Instant) : Bool :=
  intent.status = .pending && intent.expiresAt ≤ now

def expireNow (site : CommitSite) (intentId : Uuid) : Handler POSPaymentLinkIntent := do
  commit site (Session.stage {} [.intent intentId] (setIntent intentId expireIntent))
  refreshIntent intentId

-- The only writer of an intent's status that does not hold the row's lock.
def getPosPaymentIntent (user : AuthUser) (intentId : Uuid) : Handler POSPaymentLinkIntent := do
  requirePosEnabled user
  requireStaffOrAbove user
  let intent ← loadPosPaymentIntent user.businessId intentId
  let now ← readNow
  if maybeExpire intent now then expireNow (.getPaymentLinkIntent intentId) intentId
  else pure intent

def resendPosPaymentIntent (user : AuthUser) (intentId : Uuid) (tooSoon : Bool) :
    Handler POSPaymentLinkIntent := do
  requirePosEnabled user
  requireStaffOrAbove user
  let intent ← loadPosPaymentIntentForUpdate user.businessId intentId
  let now ← readNow
  if maybeExpire intent now then expireNow (.resendPaymentLinkIntent intentId) intentId
  else do
    let status := intent.status.value
    ensure (intent.status = .pending)
      ⟨"PAYMENT_INTENT_NOT_PENDING", s!"Cannot resend — this payment link is {status}", 422, []⟩
    ensure intent.paymentLinkUrl.isSome
      ⟨"PAYMENT_LINK_UNAVAILABLE", "No payment link exists to resend", 422, []⟩
    ensure (¬ tooSoon)
      ⟨"RESEND_TOO_SOON", "Please wait a few seconds before resending", 429, []⟩
    let _ ← loadBusiness user.businessId
    commit (.resendPaymentLinkIntent intentId) {}
    refreshIntent intentId

def cancelIntent (now : Instant) (i : POSPaymentLinkIntent) : POSPaymentLinkIntent :=
  { i with status := .cancelled, cancelledAt := some now }

def cancelPosPaymentIntent (user : AuthUser) (intentId : Uuid) : Handler POSPaymentLinkIntent := do
  requirePosEnabled user
  requireStaffOrAbove user
  let intent ← loadPosPaymentIntentForUpdate user.businessId intentId
  let now ← readNow
  if maybeExpire intent now then expireNow (.cancelPaymentLinkIntent intentId) intentId
  else do
    let status := intent.status.value
    ensure (intent.status = .pending)
      ⟨"PAYMENT_INTENT_NOT_PENDING", s!"Cannot cancel — this payment link is {status}", 422, []⟩
    let now ← readNow
    commit (.cancelPaymentLinkIntent intentId)
      (Session.stage {} [.intent intentId] (setIntent intentId (cancelIntent now)))
    refreshIntent intentId

section Frames

variable {sites : CommitSite → Prop} {N : Pending → Prop} {user : AuthUser}
  {businessId intentId : Uuid}

@[simp]
theorem readOnly_refreshIntent : (refreshIntent intentId).ReadOnly fun _ => True :=
  readOnly_seq readOnly_read fun _ => readOnly_found

@[simp]
theorem readOnly_loadPosPaymentIntent :
    (loadPosPaymentIntent businessId intentId).ReadOnly fun _ => True :=
  readOnly_seq readOnly_read fun _ => readOnly_found

theorem loadPosPaymentIntentForUpdate_owned :
    (loadPosPaymentIntentForUpdate businessId intentId).ReadOnly fun i =>
      intentId = i.id ∧ i.businessId = businessId := by
  refine fun db => conforms_orFail fun i hi => ?_
  obtain ⟨hlookup, hbusiness⟩ := Option.filter_eq_some_iff.mp hi
  exact ⟨(Table.lookup_key hlookup).symm, of_decide_eq_true hbusiness⟩

@[simp]
theorem readOnly_loadPosPaymentIntentForUpdate :
    (loadPosPaymentIntentForUpdate businessId intentId).ReadOnly fun _ => True :=
  readOnly_seq readOnly_lock fun _ => readOnly_found

theorem expireNow_writes {site : CommitSite} (hsite : sites site)
    (hexpire : N (RoutesPayments.setIntent intentId RoutesPayments.expireIntent)) :
    Writes sites N (expireNow site intentId) :=
  writes_bind (writes_commit hsite (Session.extends_stage hexpire)) fun _ =>
    writes_readOnly readOnly_refreshIntent

theorem createPosPaymentIntent_writes {settings : Payments.Settings} {hostedUrl : Option String}
    {body : POSPaymentIntentCreateRequest}
    (hsite : sites (.createPaymentLinkIntent intentId))
    (hinsert : ∀ business till provider phone link now, N (insertIntent
      (newPaymentIntent user intentId business till provider body.amountCents phone link now))) :
    Writes sites N (createPosPaymentIntent settings hostedUrl user intentId body) := by
  refine writes_seq readOnly_requirePosEnabled fun _ => ?_
  refine writes_seq readOnly_requireStaffOrAbove fun _ => ?_
  refine writes_seq readOnly_loadBusiness fun business => ?_
  refine writes_seq readOnly_read fun till => ?_
  refine writes_seq readOnly_found fun till => ?_
  refine writes_seq readOnly_found fun provider => ?_
  refine writes_seq readOnly_readNow fun now => ?_
  refine writes_seq ?_ fun link => ?_
  · unfold RoutesPayments.raised
    split <;> trivial
  · exact writes_bind (writes_commit hsite (Session.extends_stage (hinsert _ _ _ _ _ _))) fun _ =>
      writes_readOnly readOnly_refreshIntent

theorem getPosPaymentIntent_writes
    (hsite : sites (.getPaymentLinkIntent intentId))
    (hexpire : N (RoutesPayments.setIntent intentId RoutesPayments.expireIntent)) :
    Writes sites N (getPosPaymentIntent user intentId) := by
  refine writes_seq readOnly_requirePosEnabled fun _ => ?_
  refine writes_seq readOnly_requireStaffOrAbove fun _ => ?_
  refine writes_seq readOnly_loadPosPaymentIntent fun intent => ?_
  refine writes_seq readOnly_readNow fun now => ?_
  split
  · exact expireNow_writes hsite hexpire
  · exact writes_done _

theorem resendPosPaymentIntent_writes {tooSoon : Bool} (hN : Neutral N)
    (hsite : sites (.resendPaymentLinkIntent intentId))
    (hexpire : N (RoutesPayments.setIntent intentId RoutesPayments.expireIntent)) :
    Writes sites N (resendPosPaymentIntent user intentId tooSoon) := by
  refine writes_seq readOnly_requirePosEnabled fun _ => ?_
  refine writes_seq readOnly_requireStaffOrAbove fun _ => ?_
  refine writes_seq readOnly_loadPosPaymentIntentForUpdate fun intent => ?_
  refine writes_seq readOnly_readNow fun now => ?_
  split
  · exact expireNow_writes hsite hexpire
  · refine writes_seq readOnly_ensure fun _ => ?_
    refine writes_seq readOnly_ensure fun _ => ?_
    refine writes_seq readOnly_ensure fun _ => ?_
    refine writes_seq readOnly_loadBusiness fun _ => ?_
    exact writes_bind (writes_commit hsite hN.refl) fun _ =>
      writes_readOnly readOnly_refreshIntent

theorem cancelPosPaymentIntent_writes
    (hsite : sites (.cancelPaymentLinkIntent intentId))
    (hexpire : N (RoutesPayments.setIntent intentId RoutesPayments.expireIntent))
    (hcancel : ∀ now, N (RoutesPayments.setIntent intentId (cancelIntent now))) :
    Writes sites N (cancelPosPaymentIntent user intentId) := by
  refine writes_seq readOnly_requirePosEnabled fun _ => ?_
  refine writes_seq readOnly_requireStaffOrAbove fun _ => ?_
  refine writes_seq readOnly_loadPosPaymentIntentForUpdate fun intent => ?_
  refine writes_seq readOnly_readNow fun now => ?_
  split
  · exact expireNow_writes hsite hexpire
  · refine writes_seq readOnly_ensure fun _ => ?_
    refine writes_seq readOnly_readNow fun now => ?_
    exact writes_bind (writes_commit hsite (Session.extends_stage (hcancel now))) fun _ =>
      writes_readOnly readOnly_refreshIntent

end Frames

end NextgenBackend.RoutesPos
