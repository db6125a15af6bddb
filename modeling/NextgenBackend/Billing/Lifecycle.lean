import NextgenBackend.Core.Session
import NextgenBackend.Utils.Time

namespace NextgenBackend.Billing

open Txn

def gracePeriodDays : Nat := 7

def insertInvoice (row : BillingInvoice) : Pending := fun t =>
  { t with billingInvoices := t.billingInvoices ++ [row] }

def invoiceRow (now : Instant) (business : Business) (provider : Option BillingProvider)
    (providerReference : Option String) (status : InvoiceStatus) (amountCents : Cents) :
    BillingInvoice where
  businessId := business.id
  provider := provider.getD .unknown
  providerReference := providerReference
  amountCents := amountCents
  status := status
  plan := some business.plan
  issuedAt := now

def recordInvoice (row : Cents → BillingInvoice) (amountCents : Option Cents) : Pending :=
  amountCents.elim id fun amountCents => insertInvoice (row amountCents)

def activate (now : Instant) (business : Business) : Business :=
  { business with
    billingStatus := .active
    isActive := true
    suspendedReason := none
    billingPeriodStartedAt := now }

def markInvoicePaid (now : Instant) (business : Business) (amountCents : Option Cents)
    (provider : Option BillingProvider) (providerReference : Option String)
    (session : Session) : Session :=
  let session := session.stage [.business business.id] (setBusiness business.id (activate now))
  session.stage []
    (recordInvoice (invoiceRow now business provider providerReference .paid) amountCents)

def isStale (business : Business) (eventTime : Option Instant) : Bool :=
  eventTime.any fun eventTime => eventTime < business.billingPeriodStartedAt

def markPaymentFailed (now : Instant) (business : Business) (amountCents : Option Cents)
    (provider : Option BillingProvider) (providerReference : Option String)
    (eventTime : Option Instant) (session : Session) : Session :=
  if isStale business eventTime then session else
    let session := session.stage [.business business.id]
      (setBusiness business.id fun business => { business with billingStatus := .pastDue })
    session.stage []
      (recordInvoice (invoiceRow now business provider providerReference .failed) amountCents)

def isPastGracePeriod (now : Instant) (business : Business) : Bool :=
  business.billingStatus = .pastDue &&
    business.billingPeriodStartedAt + gracePeriodDays * Time.day < now

def suspendForNonpayment (business : Business) : Business :=
  { business with
    billingStatus := .suspended
    isActive := false
    suspendedReason := some "Subscription payment overdue — grace period elapsed" }

def suspendBusinesses (businesses : List Business) (session : Session) : Session :=
  businesses.foldl
    (fun session business => session.stage [.business business.id]
      (setBusiness business.id suspendForNonpayment))
    session

def awaitsSuspension (business : Business) : Bool :=
  business.billingStatus = .pastDue && business.isActive

def suspendPastDueBusinesses : Handler Unit := do
  let pastDue ← .read fun db => db.businesses.filter awaitsSuspension
  let now ← readNow
  let overdue := pastDue.filter (isPastGracePeriod now)
  if overdue = [] then pure () else
    commit (.suspendPastDueBusinesses (overdue.map (·.id))) (suspendBusinesses overdue {})

structure StripeInvoice where
  id : Option String
  customer : Option String
  amountPaid : Option Cents := none
  amountDue : Option Cents := none
  created : Option Instant := none
deriving DecidableEq, Repr

structure StripeSubscription where
  id : Option String
  customer : Option String
  status : String := ""
deriving DecidableEq, Repr

inductive StripeEvent where
  | subscriptionUpdated (data : StripeSubscription)
  | invoicePaid (data : StripeInvoice)
  | invoicePaymentFailed (data : StripeInvoice)
  | subscriptionDeleted (data : StripeSubscription)
  | other (type : String)
deriving DecidableEq, Repr

structure BillingSettings where
  environment : String
  billingEnabled : Bool := true
  billingProvider : String := "STRIPE"
  stripeWebhookSecret : String := ""
deriving DecidableEq, Repr

-- A request's body as it parses, and the event that Stripe's library makes of body and signature.
structure StripeRequest where
  body : Option StripeEvent
  signature : Option String
  constructed : Option StripeEvent
deriving DecidableEq, Repr

def httpException (statusCode : Nat) (detail : String) : AppError where
  code := ""
  message := detail
  statusCode := statusCode

def placeholderMarkers : List String :=
  ["change-me", "change_me", "your-", "your_", "example", "replace-me"]

def looksLikePlaceholder (value : String) : Bool :=
  let lowered := value.toList.map Char.toLower
  placeholderMarkers.any (fun marker => marker.toList <:+: lowered) || value.length < 32

def trustedEvent (settings : BillingSettings) (request : StripeRequest) :
    Except AppError StripeEvent :=
  if settings.billingEnabled ∧ settings.billingProvider.toList.map Char.toUpper ≠ "STRIPE".toList then
    .error (httpException 404 "Not found")
  else if ¬ settings.billingEnabled then .error (httpException 404 "Not found")
  else if settings.environment = "development" ∨ settings.environment = "test" then
    request.body.elim (.error (httpException 400 "Invalid payload")) .ok
  else if looksLikePlaceholder settings.stripeWebhookSecret then
    .error (httpException 503 "Webhook not configured")
  else if request.signature.all (· = "") then .error (httpException 400 "Invalid signature")
  else request.constructed.elim (.error (httpException 400 "Invalid signature")) .ok

def given (text : Option String) : Option String :=
  text.filter (· ≠ "")

def recorded (provider : BillingProvider) (providerReference : String) (t : Tables) :
    List BillingInvoice :=
  t.billingInvoices.filter fun row =>
    row.provider = provider ∧ row.providerReference = some providerReference

def invoiceAlreadyRecorded (provider : BillingProvider) (providerReference : Option String) :
    Handler Bool :=
  match given providerReference with
  | none => pure false
  | some providerReference => do
      let row ← scalar fun db => recorded provider providerReference db.toTables
      pure row.isSome

def findBusinessByStripe (customerId subscriptionId : Option String) (t : Tables) :
    Option Business :=
  ((given subscriptionId).bind fun subscriptionId =>
      t.businesses.find? fun b => b.stripeSubscriptionId = some subscriptionId).or
    ((given customerId).bind fun customerId =>
      t.businesses.find? fun b => b.stripeCustomerId = some customerId)

def statusOf : String → Option BillingStatus
  | "active" => some .active
  | "past_due" => some .pastDue
  | "canceled" => some .cancelled
  | "unpaid" => some .suspended
  | "trialing" => some .trial
  | _ => none

def applyStatus (status : BillingStatus) (business : Business) : Business :=
  match status with
  | .suspended =>
      { business with
        billingStatus := .suspended
        isActive := false
        suspendedReason := some "Subscription unpaid" }
  | .active =>
      { business with
        billingStatus := .active
        isActive := true
        suspendedReason := none }
  | status => { business with billingStatus := status }

def handleSubscriptionUpdated (data : StripeSubscription) : Handler Unit := do
  match ← .read fun db => findBusinessByStripe data.customer data.id db.toTables with
  | none => pure ()
  | some business =>
      let set := (statusOf data.status).elim id applyStatus
      commit (.subscriptionUpdated business.id)
        (Session.stage {} [.business business.id] (setBusiness business.id set))

def handleInvoicePaid (data : StripeInvoice) : Handler Unit := do
  match ← .read fun db => findBusinessByStripe data.customer none db.toTables with
  | none => pure ()
  | some business =>
      if ← invoiceAlreadyRecorded .stripe data.id then pure () else do
        let now ← readNow
        commit (.invoicePaid business.id)
          (markInvoicePaid now business data.amountPaid (some .stripe) data.id {})

def handlePaymentFailed (data : StripeInvoice) : Handler Unit := do
  match ← .read fun db => findBusinessByStripe data.customer none db.toTables with
  | none => pure ()
  | some business =>
      if ← invoiceAlreadyRecorded .stripe data.id then pure () else do
        let now ← readNow
        commit (.paymentFailed business.id)
          (markPaymentFailed now business data.amountDue (some .stripe) data.id data.created {})

def cancelSubscription (business : Business) : Business :=
  { business with
    billingStatus := .cancelled
    isActive := false
    suspendedReason := some "Subscription cancelled"
    stripeSubscriptionId := none }

def handleSubscriptionDeleted (data : StripeSubscription) : Handler Unit := do
  match ← .read fun db => findBusinessByStripe data.customer data.id db.toTables with
  | none => pure ()
  | some business =>
      commit (.subscriptionDeleted business.id)
        (Session.stage {} [.business business.id] (setBusiness business.id cancelSubscription))

def handleEvent : StripeEvent → Handler Unit
  | .subscriptionUpdated data => handleSubscriptionUpdated data
  | .invoicePaid data => handleInvoicePaid data
  | .invoicePaymentFailed data => handlePaymentFailed data
  | .subscriptionDeleted data => handleSubscriptionDeleted data
  | .other _ => pure ()

def stripeWebhook (settings : BillingSettings) (request : StripeRequest) : Handler Unit :=
  match trustedEvent settings request with
  | .error error => raise error
  | .ok event => handleEvent event

end NextgenBackend.Billing
