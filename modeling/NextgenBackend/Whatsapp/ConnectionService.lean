import NextgenBackend.Core.Errors
import NextgenBackend.Library.Txn
import NextgenBackend.Utils.Time
import NextgenBackend.Whatsapp.GraphClient

namespace NextgenBackend.Whatsapp

open Txn

inductive ConnectionStatus where
  | pending | connected | needsAttention | disconnected
deriving DecidableEq, Repr

def ConnectionStatus.value : ConnectionStatus → String
  | .pending => "PENDING"
  | .connected => "CONNECTED"
  | .needsAttention => "NEEDS_ATTENTION"
  | .disconnected => "DISCONNECTED"

structure WhatsAppConnection where
  id : Uuid
  businessId : Uuid
  wabaId : Option String := none
  phoneNumberId : Option String := none
  displayPhoneNumber : Option String := none
  verifiedName : Option String := none
  status : ConnectionStatus := .pending
  statusReason : Option String := none
  webhookSubscribed : Bool := false
  phoneRegistered : Bool := false
  accessTokenEncrypted : Option String := none
  registrationPinEncrypted : Option String := none
  tokenExpiresAt : Option Instant := none
  qualityRating : Option String := none
  connectedAt : Option Instant := none
  disconnectedAt : Option Instant := none
  lastHealthCheckAt : Option Instant := none
  connectedByUserId : Option Uuid := none
deriving DecidableEq, Repr

-- A business has at most one connection, and a reconnect replaces its fields.
instance : Keyed WhatsAppConnection Uuid := ⟨WhatsAppConnection.businessId⟩

structure ConnectTables where
  businesses : Table Business := []
  connections : Table WhatsAppConnection := []

inductive ConnectConstraint where
  | businessesPkey
  | uqBusinessesWhatsappPhoneNumberId
  | uqWhatsappConnectionsBusinessId
  | uqWhatsappConnectionsPhoneNumberId
  | uqWhatsappConnectionsWabaId
deriving DecidableEq, Repr

namespace ConnectConstraint

-- The database's error names the columns of the key.
def detail : ConnectConstraint → String
  | businessesPkey => "Key (id) already exists."
  | uqBusinessesWhatsappPhoneNumberId => "Key (whatsapp_phone_number_id) already exists."
  | uqWhatsappConnectionsBusinessId => "Key (business_id) already exists."
  | uqWhatsappConnectionsPhoneNumberId => "Key (phone_number_id) already exists."
  | uqWhatsappConnectionsWabaId => "Key (waba_id) already exists."

def Holds (t : ConnectTables) : ConnectConstraint → Prop
  | businessesPkey => t.businesses.PrimaryKey
  | uqBusinessesWhatsappPhoneNumberId =>
      t.businesses.Unique fun business => business.whatsappPhoneNumberId
  | uqWhatsappConnectionsBusinessId => t.connections.PrimaryKey
  | uqWhatsappConnectionsPhoneNumberId =>
      t.connections.Unique fun connection => connection.phoneNumberId
  | uqWhatsappConnectionsWabaId => t.connections.Unique fun connection => connection.wabaId

instance (t : ConnectTables) : (c : ConnectConstraint) → Decidable (c.Holds t)
  | businessesPkey => inferInstanceAs (Decidable (Table.PrimaryKey _))
  | uqBusinessesWhatsappPhoneNumberId => inferInstanceAs (Decidable (Table.Unique _ _))
  | uqWhatsappConnectionsBusinessId => inferInstanceAs (Decidable (Table.PrimaryKey _))
  | uqWhatsappConnectionsPhoneNumberId => inferInstanceAs (Decidable (Table.Unique _ _))
  | uqWhatsappConnectionsWabaId => inferInstanceAs (Decidable (Table.Unique _ _))

def all : List ConnectConstraint :=
  [.businessesPkey, .uqBusinessesWhatsappPhoneNumberId, .uqWhatsappConnectionsBusinessId,
    .uqWhatsappConnectionsPhoneNumberId, .uqWhatsappConnectionsWabaId]

theorem mem_all (c : ConnectConstraint) : c ∈ all := by
  cases c <;> decide

end ConnectConstraint

def ConnectTables.violation (t : ConnectTables) : Option ConnectConstraint :=
  ConnectConstraint.all.find? fun c => ¬ c.Holds t

theorem ConnectTables.violation_eq_none {t : ConnectTables} (h : t.violation = none)
    (c : ConnectConstraint) : c.Holds t := by
  simpa using List.find?_eq_none.mp h c c.mem_all

structure Connections extends ConnectTables where
  -- The routing numbers that each business was ever given by its own connection. It is read
  -- by no handler.
  claimed : List (Uuid × String) := []
  valid : ∀ c : ConnectConstraint, c.Holds toConnectTables

inductive ConnectFailure where
  | app (error : AppError)
  | integrity (violated : ConnectConstraint)
  | unhandled
deriving DecidableEq, Repr

abbrev ConnectTxn := Txn Connections Empty Unit ConnectFailure

abbrev ConnectEntry := ConnectTables → ConnectTables

def Connections.write (f : ConnectEntry) (claims : List (Uuid × String)) (db : Connections) :
    Except ConnectFailure Connections :=
  match h : (f db.toConnectTables).violation with
  | none => .ok ⟨f db.toConnectTables, db.claimed ++ claims, ConnectTables.violation_eq_none h⟩
  | some c => .error (.integrity c)

theorem Connections.write_ok {f : ConnectEntry} {claims : List (Uuid × String)}
    {db db' : Connections} (h : db.write f claims = .ok db') :
    db'.toConnectTables = f db.toConnectTables ∧ db'.claimed = db.claimed ++ claims := by
  unfold Connections.write at h
  split at h
  next =>
    obtain rfl := Except.ok.inj h
    exact ⟨rfl, rfl⟩
  next => cases h

def commit (f : ConnectEntry) : ConnectTxn Unit :=
  .save () [] (Connections.write f [])

def tryCommit (f : ConnectEntry) (claims : List (Uuid × String)) :
    ConnectTxn (Option ConnectFailure) :=
  .tryCommit () [] (Connections.write f claims)

def setConnection (businessId : Uuid) (set : WhatsAppConnection → WhatsAppConnection) :
    ConnectEntry := fun t =>
  { t with connections := t.connections.modify businessId set }

def setBusiness (businessId : Uuid) (set : Business → Business) : ConnectEntry := fun t =>
  { t with businesses := t.businesses.modify businessId set }

def getConnection (businessId : Uuid) (t : ConnectTables) : Option WhatsAppConnection :=
  t.connections.lookup businessId

def refresh (businessId : Uuid) : ConnectTxn WhatsAppConnection := do
  let connection ← .read fun db => getConnection businessId db.toConnectTables
  .orFail .unhandled connection

inductive ExchangeStep where
  | codeExchange | verifyAssets | subscribeWebhooks | registerPhone | claimRoutingNumber
deriving DecidableEq, Repr

structure ExchangeOutcome where
  success : Bool
  connection : WhatsAppConnection
  failedStep : Option ExchangeStep := none
  message : String := ""
deriving DecidableEq, Repr

structure ExchangeRequest where
  code : String
  wabaId : String
  phoneNumberId : String
  code_ne : code ≠ ""
  wabaId_ne : wabaId ≠ ""
  phoneNumberId_ne : phoneNumberId ≠ ""

-- What a call of the service has at hand: the time, the id of a new row, a fresh PIN.
structure ConnectContext where
  crypto : Crypto
  client : MetaGraphClient
  now : Instant
  newId : Uuid
  pin : String

def given (text : Option String) : Option String :=
  text.filter (· ≠ "")

theorem given_ne {text : Option String} {value : String} (h : given text = some value) :
    value ≠ "" := by
  simpa using (Option.filter_eq_some_iff.mp h).2

def isUniqueViolation (violated : ConnectConstraint) (needle : String) : Bool :=
  needle.toList <:+: violated.detail.toList

def claimedElsewhere (businessId : Uuid) (phoneNumberId : Option String) (t : ConnectTables) :
    Bool :=
  t.businesses.any fun business =>
    business.id ≠ businessId && phoneNumberId.isSome &&
      business.whatsappPhoneNumberId = phoneNumberId

def addConnection (newId businessId : Uuid) : ConnectEntry := fun t =>
  { t with connections := t.connections.insert { id := newId, businessId } }

def getOrCreateConnection (newId businessId : Uuid) : ConnectTxn ConnectEntry := do
  let connection ← .read fun db => getConnection businessId db.toConnectTables
  pure (connection.elim (addConnection newId businessId) fun _ => id)

def needsAttention (reason : String) (connection : WhatsAppConnection) : WhatsAppConnection :=
  { connection with status := .needsAttention, statusReason := some reason }

def failStep (businessId : Uuid) (step : ExchangeStep) (message : String)
    (staged : ConnectEntry) : ConnectTxn ExchangeOutcome := do
  commit (setConnection businessId (needsAttention message) ∘ staged)
  let connection ← refresh businessId
  pure ⟨false, connection, some step, message⟩

def startExchange (connection : WhatsAppConnection) : WhatsAppConnection :=
  { connection with status := .pending, statusReason := none }

def storeToken (ctx : ConnectContext) (token : String) (expiresIn : Option Int)
    (connection : WhatsAppConnection) : WhatsAppConnection :=
  { connection with
    accessTokenEncrypted := some (encryptCredential ctx.crypto token)
    tokenExpiresAt := (expiresIn.filter (0 < ·)).map fun seconds =>
      ctx.now + seconds.toNat * Time.second }

def claimAssets (request : ExchangeRequest) (phone : PhoneData)
    (connection : WhatsAppConnection) : WhatsAppConnection :=
  { connection with
    wabaId := some request.wabaId
    phoneNumberId := some request.phoneNumberId
    displayPhoneNumber := phone.displayPhoneNumber.join
    verifiedName := phone.verifiedName.join
    qualityRating := phone.qualityRating.join }

def subscribed (connection : WhatsAppConnection) : WhatsAppConnection :=
  { connection with webhookSubscribed := true }

def registered (ctx : ConnectContext) (connection : WhatsAppConnection) : WhatsAppConnection :=
  { connection with
    registrationPinEncrypted := some (encryptCredential ctx.crypto ctx.pin)
    phoneRegistered := true }

def connected (ctx : ConnectContext) (userId : Uuid) (connection : WhatsAppConnection) :
    WhatsAppConnection :=
  { connection with
    status := .connected
    statusReason := none
    connectedAt := some ctx.now
    disconnectedAt := none
    connectedByUserId := some userId
    lastHealthCheckAt := some ctx.now }

def routeTo (connection : WhatsAppConnection) (business : Business) : Business :=
  { business with
    whatsappPhoneNumberId := connection.phoneNumberId
    whatsappBusinessAccountId := connection.wabaId }

def alreadyConnected : String :=
  "This WhatsApp number is already connected to a different NextGen business. Disconnect it " ++
    "there first, or choose a different number."

def claimRoutingNumber (ctx : ConnectContext) (businessId userId : Uuid) :
    ConnectTxn ExchangeOutcome := do
  let connection ← refresh businessId
  let conflict ← .read fun db =>
    claimedElsewhere businessId connection.phoneNumberId db.toConnectTables
  if conflict then failStep businessId .claimRoutingNumber alreadyConnected id else
  let claims := connection.phoneNumberId.toList.map fun number => (businessId, number)
  match ← tryCommit (setConnection businessId (connected ctx userId) ∘
      setBusiness businessId (routeTo connection)) claims with
  | none =>
      let connection ← refresh businessId
      pure ⟨true, connection, none, "WhatsApp connected successfully."⟩
  | some (.integrity violated) =>
      if isUniqueViolation violated "whatsapp_phone_number_id" ||
          isUniqueViolation violated "phone_number_id" then
        failStep businessId .claimRoutingNumber
          "This WhatsApp number is already connected to a different NextGen business." id
      else .fail (.integrity violated)
  | some e => .fail e

def registerPhone (ctx : ConnectContext) (businessId userId : Uuid) (request : ExchangeRequest)
    (token : String) : ConnectTxn ExchangeOutcome := do
  let refusal := match ctx.client.registerPhone request.phoneNumberId token ctx.pin with
    | .ok _ => none
    | .error exc => if exc.isAlreadyRegistered then none else some exc
  match refusal with
  | some exc =>
      failStep businessId .registerPhone
        (s!"Could not register this phone number for messaging: {exc.message}") id
  | none =>
      commit (setConnection businessId (registered ctx))
      claimRoutingNumber ctx businessId userId

def subscribeWebhooks (ctx : ConnectContext) (businessId userId : Uuid)
    (request : ExchangeRequest) (token : String) : ConnectTxn ExchangeOutcome :=
  match ctx.client.subscribeApp request.wabaId token with
  | .error exc => failStep businessId .subscribeWebhooks
      (s!"Could not subscribe to WhatsApp notifications for this account: {exc.message}") id
  | .ok _ => do
      commit (setConnection businessId subscribed)
      registerPhone ctx businessId userId request token

def unconfirmed (exc : GraphAPIError) : String :=
  let detail := if exc.isInvalidToken then
    "the token does not have access to it (Graph error 190)" else exc.message
  s!"Could not confirm this Meta account actually owns the selected WhatsApp number/account " ++
    s!"— {detail}. Nothing was connected."

def verifyAssets (ctx : ConnectContext) (businessId userId : Uuid) (request : ExchangeRequest)
    (token : String) : ConnectTxn ExchangeOutcome :=
  let answers := do
    let waba ← ctx.client.getWaba request.wabaId token
    let phone ← ctx.client.getPhoneNumber request.phoneNumberId token
    pure (waba, phone)
  match answers with
  | .error exc => failStep businessId .verifyAssets (unconfirmed exc) id
  | .ok (waba, phone) =>
      if waba.id ≠ some request.wabaId then failStep businessId .verifyAssets
        "The WhatsApp Business Account Meta returned did not match the one selected." id
      else do
        match ← tryCommit (setConnection businessId (claimAssets request phone)) [] with
        | none => subscribeWebhooks ctx businessId userId request token
        | some (.integrity violated) =>
            if isUniqueViolation violated "phone_number_id" ||
                isUniqueViolation violated "waba_id" then
              failStep businessId .claimRoutingNumber
                ("This WhatsApp number or account is already connected to a different NextGen " ++
                  "business. Disconnect it there first, or choose a different number/account.") id
            else .fail (.integrity violated)
        | some e => .fail e

def exchangeCode (ctx : ConnectContext) (businessId userId : Uuid) (request : ExchangeRequest) :
    ConnectTxn ExchangeOutcome :=
  match ctx.client.exchangeCodeForToken request.code with
  | .error exc => failStep businessId .codeExchange
      (s!"Could not exchange the authorization code with Meta: {exc.message}") id
  | .ok tokenData =>
      match given tokenData.accessToken with
      | none => failStep businessId .codeExchange
          "Meta's code-exchange response did not include an access_token." id
      | some token => do
          commit (setConnection businessId (storeToken ctx token tokenData.expiresIn))
          verifyAssets ctx businessId userId request token

def runExchange (ctx : ConnectContext) (businessId userId : Uuid) (request : ExchangeRequest) :
    ConnectTxn ExchangeOutcome := do
  let conflict ← .read fun db =>
    claimedElsewhere businessId (some request.phoneNumberId) db.toConnectTables
  let staged ← getOrCreateConnection ctx.newId businessId
  if conflict then failStep businessId .claimRoutingNumber alreadyConnected staged else
  commit (setConnection businessId startExchange ∘ staged)
  exchangeCode ctx businessId userId request

def markInvalidToken (businessId : Uuid) (detail : String) : ConnectTxn WhatsAppConnection := do
  commit (setConnection businessId (needsAttention detail))
  refresh businessId

def disconnected (now : Instant) (connection : WhatsAppConnection) : WhatsAppConnection :=
  { connection with
    status := .disconnected
    statusReason := some "Disconnected by owner"
    accessTokenEncrypted := none
    registrationPinEncrypted := none
    webhookSubscribed := false
    phoneRegistered := false
    disconnectedAt := some now }

-- Only what still points at the connection is cleared.
def unroute (connection : WhatsAppConnection) (business : Business) : Business :=
  { business with
    whatsappPhoneNumberId :=
      if business.whatsappPhoneNumberId = connection.phoneNumberId then none
      else business.whatsappPhoneNumberId
    whatsappBusinessAccountId :=
      if business.whatsappBusinessAccountId = connection.wabaId then none
      else business.whatsappBusinessAccountId }

def connectionNotFound (action : String) : ConnectFailure :=
  .app ⟨"WHATSAPP_NOT_CONNECTED", s!"This business has no WhatsApp connection to {action}.", 409, []⟩

-- Meta is told on a best-effort basis: no answer of its changes what is done here.
def disconnect (ctx : ConnectContext) (businessId : Uuid) : ConnectTxn WhatsAppConnection := do
  let found ← .read fun db => getConnection businessId db.toConnectTables
  let connection ← .orFail (connectionNotFound "disconnect") found
  commit (setConnection businessId (disconnected ctx.now) ∘
    setBusiness businessId (unroute connection))
  refresh businessId

structure HealthReport where
  ok : Bool
  detail : String
  errorCode : Option Int := none
  statusCode : Option Nat := none
  qualityRating : Option String := none
  codeVerificationStatus : Option String := none
deriving DecidableEq, Repr

def unhealthy (now : Instant) (reason : String) (connection : WhatsAppConnection) :
    WhatsAppConnection :=
  { needsAttention reason connection with lastHealthCheckAt := some now }

def healthy (now : Instant) (phone : PhoneData) (connection : WhatsAppConnection) :
    WhatsAppConnection :=
  let connection :=
    { connection with
      displayPhoneNumber := phone.displayPhoneNumber.getD connection.displayPhoneNumber
      verifiedName := phone.verifiedName.getD connection.verifiedName
      qualityRating := phone.qualityRating.join
      lastHealthCheckAt := some now }
  if connection.status = .needsAttention then
    { connection with status := .connected, statusReason := none }
  else connection

def decrypted (crypto : Crypto) (connection : WhatsAppConnection) :
    Except CredentialDecryptionError (Option String) :=
  match given connection.accessTokenEncrypted with
  | none => .ok none
  | some value => (decryptCredential crypto value).map fun token => given (some token)

def unhealthyReason (exc : GraphAPIError) : String :=
  if exc.isInvalidToken then "Meta reports this connection's token is no longer valid " ++
    "(error 190) — reconnect required." else s!"Health check failed: {exc.message}"

def healthCheck (ctx : ConnectContext) (businessId : Uuid) :
    ConnectTxn (WhatsAppConnection × HealthReport) := do
  let found ← .read fun db => getConnection businessId db.toConnectTables
  let connection ← .orFail (connectionNotFound "check") found
  if connection.status = .disconnected then
    pure (connection, ⟨false, "This business is not connected — nothing to check.", none, none,
      none, none⟩)
  else match decrypted ctx.crypto connection with
  | .error _ => .fail .unhandled
  | .ok none =>
      let reason := "No stored access token — reconnect required."
      commit (setConnection businessId (unhealthy ctx.now reason))
      let connection ← refresh businessId
      pure (connection, ⟨false, reason, none, none, none, none⟩)
  | .ok (some token) =>
      -- The path of the request cannot be built without a number.
      let number ← .orFail .unhandled connection.phoneNumberId
      match ctx.client.getPhoneNumber number token with
      | .error exc =>
          let reason := unhealthyReason exc
          commit (setConnection businessId (unhealthy ctx.now reason))
          let connection ← refresh businessId
          pure (connection, ⟨false, reason, exc.errorCode, exc.statusCode, none, none⟩)
      | .ok phone =>
          commit (setConnection businessId (healthy ctx.now phone))
          let connection ← refresh businessId
          pure (connection, ⟨true, "Connection healthy.", none, none, connection.qualityRating,
            phone.codeVerificationStatus.join⟩)

inductive CredentialSource where
  | business | platform
deriving DecidableEq, Repr

structure WhatsAppCredentials where
  phoneNumberId : String
  accessToken : String
  source : CredentialSource
  connectionId : Option Uuid := none
deriving DecidableEq, Repr

structure PlatformSettings where
  crypto : Crypto
  whatsappDefaultAccessToken : String

def ownsRoutingNumber (business : Business) (connection : WhatsAppConnection) : Bool :=
  business.whatsappPhoneNumberId.isSome &&
    connection.phoneNumberId = business.whatsappPhoneNumberId

def businessCredentials (settings : PlatformSettings) (connection : WhatsAppConnection) :
    Option WhatsAppCredentials :=
  if connection.status ≠ .connected then none else
    match decrypted settings.crypto connection, connection.phoneNumberId with
    | .ok (some token), some number => some ⟨number, token, .business, some connection.id⟩
    | _, _ => none

-- A number of the platform's own, unless a customer's account is, or was left, in between.
def platformCredentials (settings : PlatformSettings) (business : Business)
    (connection : Option WhatsAppConnection) : Option WhatsAppCredentials :=
  if connection.any fun connection => connection.status ≠ .disconnected then none
  else if (given business.whatsappBusinessAccountId).isSome then none
  else (given business.whatsappPhoneNumberId).map fun number =>
    ⟨number, settings.whatsappDefaultAccessToken, .platform, none⟩

def resolveWhatsappCredentials (settings : PlatformSettings) (business : Business)
    (t : ConnectTables) : Option WhatsAppCredentials :=
  let connection := getConnection business.id t
  match connection.filter (ownsRoutingNumber business) with
  | some connection => businessCredentials settings connection
  | none => platformCredentials settings business connection

end NextgenBackend.Whatsapp
