import NextgenBackend.Bot.WhatsappSender
import NextgenBackend.Library.Dict
import NextgenBackend.Utils.Phone

namespace NextgenBackend.WhatsappReceipt

open Whatsapp Outbox

inductive WhatsappReceiptStatus where
  | notRequested | queued | sent | delivered | failed
deriving DecidableEq, Repr

def doneStatuses : List WhatsappReceiptStatus := [.sent, .delivered]

structure DigitalReceipt where
  id : Uuid
  businessId : Uuid
  token : String
  customerId : Option Uuid := none
  phoneNumberE164 : Option String := none
  printRequested : Bool := false
  whatsappRequested : Bool := false
  whatsappStatus : WhatsappReceiptStatus := .notRequested
  whatsappFailureReason : Option String := none
  whatsappWamid : Option String := none
  whatsappSentAt : Option Instant := none
  whatsappDeliveredAt : Option Instant := none
  requestedByUserId : Option Uuid := none
deriving DecidableEq, Repr

-- One receipt an order, by its order.
abbrev Receipts := Dict Uuid DigitalReceipt

inductive Channel where
  | print | whatsapp
deriving DecidableEq, Repr

structure ReceiptRequest where
  channels : List Channel
  phoneNumberE164 : Option String := none
  customer : Option Customer := none
  requestedByUserId : Option Uuid := none
  forceResend : Bool := false

inductive ReceiptFailure where
  | destinationUnavailable
  | integrityError
deriving DecidableEq, Repr

structure Surroundings where
  settings : PlatformSettings
  gateway : Gateway
  connections : ConnectTables
  now : Instant
  receiptId : Uuid
  tokens : String × String

structure Outcome where
  answer : Except ReceiptFailure DigitalReceipt
  receipts : Receipts
  -- The recipient of the template, where a request to Meta went out.
  attempted : Option String := none

def toWaId (e164 : String) : String :=
  match e164.toList with
  | '+' :: digits => String.ofList digits
  | _ => e164

def storedDestination (storedPhoneE164 : Option String) : Option (String × Option String) :=
  (given storedPhoneE164).map fun stored => (toWaId stored, none)

def customerDestination (customer : Customer) : Option (String × Option String) :=
  match given customer.waId with
  | some waId => some (waId, none)
  | none => ((given customer.phoneNumber).bind Phone.normalizeSaMobile).map fun normalised =>
      (toWaId normalised, some normalised)

def resolveWhatsappDestination (phoneNumberE164 : Option String) (customer : Option Customer)
    (storedPhoneE164 : Option String) : Option (String × Option String) :=
  match given phoneNumberE164 with
  | some phone => some (toWaId phone, some phone)
  | none => (customer.bind customerDestination).or (storedDestination storedPhoneE164)

def isFree (token : String) (receipts : Receipts) : Bool :=
  receipts.values.all fun receipt => receipt.token ≠ token

def getOrCreateReceipt (env : Surroundings) (orderId : Uuid) (business : Business)
    (receipts : Receipts) : Except ReceiptFailure DigitalReceipt :=
  let fresh (token : String) : DigitalReceipt :=
    { id := env.receiptId, businessId := business.id, token }
  match receipts.lookup orderId with
  | some receipt => .ok receipt
  | none =>
      if isFree env.tokens.1 receipts then .ok (fresh env.tokens.1)
      else if isFree env.tokens.2 receipts then .ok (fresh env.tokens.2)
      else .error .integrityError

def noteRequest (request : ReceiptRequest) (receipt : DigitalReceipt) : DigitalReceipt :=
  { receipt with
    customerId := receipt.customerId.or (request.customer.map (·.id))
    requestedByUserId := request.requestedByUserId.or receipt.requestedByUserId
    printRequested := receipt.printRequested || .print ∈ request.channels
    whatsappRequested := receipt.whatsappRequested || .whatsapp ∈ request.channels }

def fail (reason : String) (receipt : DigitalReceipt) : DigitalReceipt :=
  { receipt with
    whatsappStatus := .failed
    whatsappFailureReason := some reason }

def settle (now : Instant) (outcome : SendOutcome) (receipt : DigitalReceipt) : DigitalReceipt :=
  match given outcome.waMessageId with
  | some wamid =>
      { receipt with
        whatsappStatus := .sent
        whatsappWamid := some wamid
        whatsappSentAt := some now
        whatsappFailureReason := none }
  | none => fail (MetaErrors.truncated 500
      (outcome.error.elim "unknown error" fun info => info.lastError)) receipt

def finish (orderId : Uuid) (receipts : Receipts) (receipt : DigitalReceipt) : Outcome where
  answer := .ok receipt
  receipts := receipts.set orderId receipt

def keepPhone (resolvedPhone : Option String) (receipt : DigitalReceipt) : DigitalReceipt :=
  if (given receipt.phoneNumberE164).isSome then receipt
  else { receipt with phoneNumberE164 := resolvedPhone.or receipt.phoneNumberE164 }

def sendTo (env : Surroundings) (orderId : Uuid) (business : Business) (receipts : Receipts)
    (destination : String) (receipt : DigitalReceipt) : Outcome :=
  match given business.whatsappPhoneNumberId with
  | none => finish orderId receipts
      (fail "business has no whatsapp_phone_number_id configured" receipt)
  | some _ =>
      let outcome := sendViaBusinessConnection env.settings env.gateway business env.connections
      { finish orderId receipts (settle env.now outcome receipt) with
        attempted := (resolveWhatsappCredentials env.settings business env.connections).map
          fun _ => destination }

def sendWhatsapp (env : Surroundings) (orderId : Uuid) (business : Business)
    (request : ReceiptRequest) (receipts : Receipts) (receipt : DigitalReceipt) : Outcome :=
  if receipt.whatsappStatus ∈ doneStatuses ∧ request.forceResend = false then
    finish orderId receipts receipt
  else if business.digitalReceiptsEnabled = false then finish orderId receipts receipt
  else
    match resolveWhatsappDestination request.phoneNumberE164 request.customer
        receipt.phoneNumberE164 with
    | none =>
        if receipt.whatsappStatus ∈ doneStatuses then
          { answer := .error .destinationUnavailable, receipts }
        else finish orderId receipts (fail "no phone number available" receipt)
    | some (destination, resolvedPhone) =>
        sendTo env orderId business receipts destination (keepPhone resolvedPhone receipt)

def sendDigitalReceipt (env : Surroundings) (orderId : Uuid) (business : Business)
    (request : ReceiptRequest) (receipts : Receipts) : Outcome :=
  match getOrCreateReceipt env orderId business receipts with
  | .error e => { answer := .error e, receipts }
  | .ok receipt =>
      let receipt := noteRequest request receipt
      if .whatsapp ∈ request.channels then
        sendWhatsapp env orderId business request receipts receipt
      else finish orderId receipts receipt

variable {env : Surroundings} {orderId : Uuid} {business : Business} {request : ReceiptRequest}
  {receipts : Receipts} {receipt : DigitalReceipt} {destination : String}

structure Delivery where
  whatsappStatus : WhatsappReceiptStatus
  whatsappWamid : Option String
  whatsappFailureReason : Option String
deriving DecidableEq, Repr

def DigitalReceipt.delivery (receipt : DigitalReceipt) : Delivery :=
  ⟨receipt.whatsappStatus, receipt.whatsappWamid, receipt.whatsappFailureReason⟩

@[simp]
theorem noteRequest_delivery : (noteRequest request receipt).delivery = receipt.delivery := rfl

@[simp]
theorem noteRequest_status :
    (noteRequest request receipt).whatsappStatus = receipt.whatsappStatus := rfl

@[simp]
theorem noteRequest_phone :
    (noteRequest request receipt).phoneNumberE164 = receipt.phoneNumberE164 := rfl

theorem finish_lookup :
    (finish orderId receipts receipt).receipts.lookup orderId = some receipt := by
  simp [finish]

-- No request can go out to Meta for the business.
def Unsendable (env : Surroundings) (business : Business) : Prop :=
  given business.whatsappPhoneNumberId = none ∨
    resolveWhatsappCredentials env.settings business env.connections = none

theorem sendTo_attempted :
    (sendTo env orderId business receipts destination receipt).attempted = none ↔
      Unsendable env business := by
  unfold sendTo Unsendable
  cases given business.whatsappPhoneNumberId with
  | none => simp [finish]
  | some number => simp

theorem sendViaBusinessConnection_none
    (h : resolveWhatsappCredentials env.settings business env.connections = none) :
    (sendViaBusinessConnection env.settings env.gateway business env.connections).waMessageId =
      none := by
  unfold sendViaBusinessConnection
  rw [h]

theorem sendTo_fails (h : Unsendable env business) :
    ∃ receipt', (sendTo env orderId business receipts destination receipt).receipts.lookup orderId =
      some receipt' ∧ receipt'.whatsappStatus = .failed := by
  unfold sendTo
  cases hnumber : given business.whatsappPhoneNumberId with
  | none => exact ⟨_, finish_lookup, rfl⟩
  | some number =>
      have hcreds := h.resolve_left (by rw [hnumber]; exact Option.some_ne_none _)
      refine ⟨_, finish_lookup, ?_⟩
      unfold settle
      rw [sendViaBusinessConnection_none hcreds]
      rfl

-- A forced resend that finds a destination, but nothing to send with.
structure Overwrites (env : Surroundings) (business : Business) (request : ReceiptRequest)
    (receipt : DigitalReceipt) : Prop where
  done : receipt.whatsappStatus ∈ doneStatuses
  channel : .whatsapp ∈ request.channels
  forced : request.forceResend = true
  enabled : business.digitalReceiptsEnabled = true
  destination : (resolveWhatsappDestination request.phoneNumberE164 request.customer
    receipt.phoneNumberE164).isSome = true
  unsendable : Unsendable env business

def KeepsDelivery (orderId : Uuid) (receipts : Receipts) (outcome : Outcome) : Prop :=
  outcome.attempted = none → ∀ receipt, receipts.lookup orderId = some receipt →
    receipt.whatsappStatus ∈ doneStatuses →
    ∃ receipt', outcome.receipts.lookup orderId = some receipt' ∧
      receipt'.delivery = receipt.delivery

theorem sendDigitalReceipt_found (hreceipt : receipts.lookup orderId = some receipt) :
    sendDigitalReceipt env orderId business request receipts =
      if .whatsapp ∈ request.channels then
        sendWhatsapp env orderId business request receipts (noteRequest request receipt)
      else finish orderId receipts (noteRequest request receipt) := by
  have hcreate : getOrCreateReceipt env orderId business receipts = .ok receipt := by
    unfold getOrCreateReceipt
    rw [hreceipt]
  unfold sendDigitalReceipt
  rw [hcreate]

theorem overwritten (hreceipt : receipts.lookup orderId = some receipt)
    (h : Overwrites env business request receipt) :
    (sendDigitalReceipt env orderId business request receipts).attempted = none ∧
      ∃ receipt', (sendDigitalReceipt env orderId business request receipts).receipts.lookup
        orderId = some receipt' ∧ receipt'.whatsappStatus = .failed := by
  obtain ⟨⟨destination, resolvedPhone⟩, hdestination⟩ := Option.isSome_iff_exists.mp h.destination
  have hsend : sendDigitalReceipt env orderId business request receipts =
      sendTo env orderId business receipts destination
        (keepPhone resolvedPhone (noteRequest request receipt)) := by
    rw [sendDigitalReceipt_found hreceipt, if_pos h.channel]
    unfold sendWhatsapp
    rw [if_neg (by simp [h.forced]), if_neg (by simp [h.enabled]), noteRequest_phone, hdestination]
  rw [hsend]
  exact ⟨sendTo_attempted.mpr h.unsendable, sendTo_fails h.unsendable⟩

theorem not_keepsDelivery (hreceipt : receipts.lookup orderId = some receipt)
    (h : Overwrites env business request receipt) :
    ¬ KeepsDelivery orderId receipts
      (sendDigitalReceipt env orderId business request receipts) := by
  intro hkeeps
  obtain ⟨hattempted, failed, hfailed, hstatus⟩ := overwritten hreceipt h
  obtain ⟨kept, hkept, hdelivery⟩ := hkeeps hattempted receipt hreceipt h.done
  obtain rfl := Option.some.inj (hfailed.symm.trans hkept)
  have hsame : receipt.whatsappStatus = .failed :=
    (congrArg Delivery.whatsappStatus hdelivery).symm.trans hstatus
  have hdone := h.done
  rw [hsame] at hdone
  simp [doneStatuses] at hdone

theorem finish_keeps : ∃ receipt',
    (finish orderId receipts (noteRequest request receipt)).receipts.lookup orderId =
      some receipt' ∧ receipt'.delivery = receipt.delivery :=
  ⟨_, finish_lookup, noteRequest_delivery⟩

theorem delivery_kept (hreceipt : receipts.lookup orderId = some receipt)
    (hdone : receipt.whatsappStatus ∈ doneStatuses)
    (hattempted : (sendDigitalReceipt env orderId business request receipts).attempted = none)
    (hkeeps : ¬ Overwrites env business request receipt) :
    ∃ receipt', (sendDigitalReceipt env orderId business request receipts).receipts.lookup orderId =
      some receipt' ∧ receipt'.delivery = receipt.delivery := by
  rw [sendDigitalReceipt_found hreceipt] at hattempted ⊢
  by_cases hchannel : .whatsapp ∈ request.channels
  · rw [if_pos hchannel] at hattempted ⊢
    unfold sendWhatsapp at hattempted ⊢
    by_cases hforced : request.forceResend = true
    · rw [if_neg (by simp [hforced])] at hattempted ⊢
      by_cases henabled : business.digitalReceiptsEnabled = true
      · rw [if_neg (by simp [henabled]), noteRequest_phone] at hattempted ⊢
        cases hdestination : resolveWhatsappDestination request.phoneNumberE164 request.customer
          receipt.phoneNumberE164 with
        | none =>
            dsimp only
            rw [noteRequest_status, if_pos hdone]
            exact ⟨receipt, hreceipt, rfl⟩
        | some destination =>
            rw [hdestination] at hattempted
            exact absurd ⟨hdone, hchannel, hforced, henabled, by rw [hdestination]; rfl,
              sendTo_attempted.mp hattempted⟩ hkeeps
      · rw [if_pos (by simpa using henabled)]
        exact finish_keeps
    · rw [if_pos ⟨by rw [noteRequest_status]; exact hdone, by simpa using hforced⟩]
      exact finish_keeps
  · rw [if_neg hchannel]
    exact finish_keeps

theorem unattempted_send_keeps_iff (env : Surroundings) (orderId : Uuid) (business : Business)
    (request : ReceiptRequest) (receipts : Receipts) :
    KeepsDelivery orderId receipts (sendDigitalReceipt env orderId business request receipts) ↔
      ¬ ∃ receipt, receipts.lookup orderId = some receipt ∧
        Overwrites env business request receipt := by
  constructor
  · rintro hkeeps ⟨receipt, hreceipt, hoverwrites⟩
    exact not_keepsDelivery hreceipt hoverwrites hkeeps
  · intro hnone hattempted receipt hreceipt hdone
    exact delivery_kept hreceipt hdone hattempted fun h => hnone ⟨receipt, hreceipt, h⟩

def ourTown : Business where
  id := 1
  digitalReceiptsEnabled := true

def deliveredReceipt : DigitalReceipt where
  id := 5
  businessId := 1
  token := "token-1"
  phoneNumberE164 := some "+27821234567"
  whatsappRequested := true
  whatsappStatus := .delivered
  whatsappWamid := some "wamid-1"

theorem resend_without_number_overwrites :
    ¬ ∀ (env : Surroundings) (orderId : Uuid) (business : Business) (request : ReceiptRequest)
      (receipts : Receipts),
      KeepsDelivery orderId receipts (sendDigitalReceipt env orderId business request receipts) := by
  intro h
  let env : Surroundings :=
    { settings := ⟨none, "platform"⟩
      gateway := ⟨.timeout, .ok []⟩
      connections := {}
      now := 100
      receiptId := 6
      tokens := ("token-2", "token-3") }
  have hreceipt : (Dict.empty.set 4 deliveredReceipt).lookup 4 = some deliveredReceipt := by
    simp
  have hoverwrites : Overwrites env ourTown { channels := [.whatsapp], forceResend := true }
      deliveredReceipt :=
    ⟨by decide, by decide, rfl, rfl, by decide +kernel, Or.inl rfl⟩
  exact not_keepsDelivery hreceipt hoverwrites (h _ _ _ _ _)

end NextgenBackend.WhatsappReceipt
