import NextgenBackend.Whatsapp.ConnectionService
import NextgenBackend.Whatsapp.GraphClient

namespace NextgenBackend.MetaErrors

open Whatsapp (GraphAPIError)

def tokenInvalid : Int := 190

def outsideServiceWindow : Int := 131047

def invalidRecipient : Int := 131026

def permanentCodes : List Int := [tokenInvalid, outsideServiceWindow, invalidRecipient]

structure MetaErrorInfo where
  statusCode : Nat
  code : Option Int := none
  subcode : Option Int := none
  message : String
  details : Option String := none
  retryable : Bool
  lastError : String
deriving DecidableEq, Repr

-- The error object of Meta's answer, where the body has one.
structure ErrorBody where
  code : Option Int := none
  errorSubcode : Option Int := none
  message : String := ""
  details : Option String := none
deriving DecidableEq, Repr

def truncated (length : Nat) (text : String) : String :=
  String.ofList (text.toList.take length)

def isRetryable (code subcode : Option Int) : Bool :=
  (code.all fun c => c ∉ permanentCodes) && subcode.all fun c => c ∉ permanentCodes

def errorPrefix (statusCode : Nat) (code subcode : Option Int) : String :=
  let base := code.elim (s!"HTTP_{statusCode}") fun c => s!"META_{c}"
  match subcode.filter (· ≠ 0) with
  | none => base
  | some c => s!"{base}.{c}"

def parseMetaError (statusCode : Nat) (responseText : String) (error : Option ErrorBody) :
    MetaErrorInfo :=
  let body := error.getD {}
  let details := (body.details.filter (· ≠ "")).map (truncated 200)
  let message := if body.message ≠ "" then body.message else
    truncated 200 (if responseText ≠ "" then responseText else "Unknown Meta API error")
  let reason := details.elim message fun details => s!"{message} ({details})"
  { statusCode
    code := body.code
    subcode := body.errorSubcode
    message
    details
    retryable := isRetryable body.code body.errorSubcode
    lastError := truncated 500
      (s!"{errorPrefix statusCode body.code body.errorSubcode}: {reason}") }

def fromGraphError (exc : GraphAPIError) : MetaErrorInfo :=
  let statusCode := exc.statusCode.getD 0
  let message := truncated 200
    (if exc.message ≠ "" then exc.message else "Unknown Meta API error")
  { statusCode
    code := exc.errorCode
    subcode := exc.errorSubcode
    message
    retryable := isRetryable exc.errorCode exc.errorSubcode
    lastError := truncated 500
      (s!"{errorPrefix statusCode exc.errorCode exc.errorSubcode}: {message}") }

def notSendable (reason : String) : MetaErrorInfo where
  statusCode := 0
  message := reason
  retryable := false
  lastError := truncated 500 (s!"NOT_SENDABLE: {reason}")

def transportError (reason : String) : MetaErrorInfo where
  statusCode := 0
  message := reason
  retryable := true
  lastError := truncated 500 (s!"TRANSPORT_ERROR: {reason}")

end NextgenBackend.MetaErrors

namespace NextgenBackend.Outbox

open MetaErrors Whatsapp

-- What comes back from the platform's own call: the ids of the messages in a 200 answer, an
-- answer of another status, or none at all.
inductive PlatformReply where
  | ok (messages : List (Option String)) (text : String)
  | refused (statusCode : Nat) (text : String) (error : Option ErrorBody)
  | timeout
  | exception (repr : String)
deriving DecidableEq, Repr

structure Gateway where
  platform : PlatformReply
  business : Except GraphAPIError (List (Option String))

structure SendOutcome where
  waMessageId : Option String
  error : Option MetaErrorInfo
  -- Whether the connection of the business was marked, and so the transaction committed.
  marksInvalidToken : Bool := false
deriving DecidableEq, Repr

def sendViaMetaApi (phoneNumberId : String) : PlatformReply → SendOutcome
  | .ok (id :: _) _ => ⟨id, none, false⟩
  | .ok [] text => ⟨none, some (parseMetaError 200 text none), false⟩
  | .refused statusCode text error => ⟨none, some (parseMetaError statusCode text error), false⟩
  | .timeout => ⟨none, some (transportError
      (s!"Meta API timeout after 10s (phone_number_id={phoneNumberId})")), false⟩
  | .exception repr => ⟨none, some (transportError
      (s!"Unexpected error sending WhatsApp message: {repr}")), false⟩

def withoutCredentials (connection : Option WhatsAppConnection) : MetaErrorInfo :=
  match connection.filter fun connection => connection.status ≠ .connected with
  | some connection => notSendable
      (s!"WhatsApp connection is {connection.status.value} — reconnect required " ++
        "(no platform-token fallback)")
  | none => notSendable "No WhatsApp credentials configured"

def sendViaBusinessConnection (settings : PlatformSettings) (gateway : Gateway)
    (business : Business) (t : ConnectTables) : SendOutcome :=
  match resolveWhatsappCredentials settings business t with
  | none => ⟨none, some (withoutCredentials (getConnection business.id t)), false⟩
  | some creds =>
      match creds.source with
      | .platform => sendViaMetaApi creds.phoneNumberId gateway.platform
      | .business =>
          match gateway.business with
          | .error exc => ⟨none, some (fromGraphError exc),
              exc.isInvalidToken && creds.connectionId.isSome &&
                (getConnection business.id t).isSome⟩
          | .ok (id :: _) => ⟨id, none, false⟩
          | .ok [] => ⟨none, some (transportError
              "Meta API returned 200 but no messages[] in response (business connection)"), false⟩

end NextgenBackend.Outbox
