import NextgenBackend.Library.Run
import NextgenBackend.Whatsapp.ConnectionService

namespace NextgenBackend.Whatsapp

open Txn

inductive AccountEvent where
  | partnerAppUninstalled | partnerRemoved | accountDeleted
  | disabledUpdate | accountViolation | accountRestriction
  | other (event : String)
deriving DecidableEq, Repr

def accountEventOutcome : AccountEvent → Option (ConnectionStatus × String)
  | .partnerAppUninstalled => some (.disconnected,
      "Meta reports this app was uninstalled from the WhatsApp Business Account.")
  | .partnerRemoved => some (.disconnected,
      "Meta reports this app's access to the WhatsApp Business Account was removed.")
  | .accountDeleted => some (.disconnected,
      "Meta reports this WhatsApp Business Account was deleted.")
  | .disabledUpdate => some (.needsAttention,
      "Meta reports this WhatsApp Business Account was disabled.")
  | .accountViolation => some (.needsAttention,
      "Meta reports a policy violation on this WhatsApp Business Account.")
  | .accountRestriction => some (.needsAttention,
      "Meta reports a restriction on this WhatsApp Business Account.")
  | .other _ => none

structure AccountUpdate where
  event : Option AccountEvent
  wabaId : Option String
deriving DecidableEq, Repr

def reported (now : Instant) (outcome : ConnectionStatus × String)
    (connection : WhatsAppConnection) : WhatsAppConnection :=
  let connection := { connection with status := outcome.1, statusReason := some outcome.2 }
  if outcome.1 = .disconnected then
    { connection with
      disconnectedAt := some now
      accessTokenEncrypted := none
      registrationPinEncrypted := none }
  else connection

-- The account is looked up by its own id; an id that two rows share is left alone.
def connectionOf (wabaId : String) (t : ConnectTables) : Option WhatsAppConnection :=
  match t.connections.filter fun connection => connection.wabaId = some wabaId with
  | [connection] => some connection
  | _ => none

def handleAccountUpdateEvent (now : Instant) (value : AccountUpdate) : ConnectTxn Unit := do
  match value.event.bind accountEventOutcome, given value.wabaId with
  | some outcome, some wabaId =>
      let found ← .read fun db => connectionOf wabaId db.toConnectTables
      match found with
      | none => pure ()
      | some connection => commit (setConnection connection.businessId (reported now outcome))
  | _, _ => pure ()

def requireWhatsappModuleEnabled (businessId : Uuid) : ConnectTxn Business := do
  let found ← .read fun db => db.businesses.lookup businessId
  let business ← .orFail (.app (notFoundError "Business" none)) found
  .require business.isWhatsappEnabled (.app
    ⟨"WHATSAPP_NOT_ENABLED", "WhatsApp is not enabled for this business.", 409, []⟩)
  pure business

def exchangeCodeRoute (ctx : ConnectContext) (businessId userId : Uuid)
    (request : ExchangeRequest) : ConnectTxn ExchangeOutcome := do
  let business ← requireWhatsappModuleEnabled businessId
  runExchange ctx business.id userId request

def healthCheckRoute (ctx : ConnectContext) (businessId : Uuid) :
    ConnectTxn (WhatsAppConnection × HealthReport) := do
  let business ← requireWhatsappModuleEnabled businessId
  healthCheck ctx business.id

def disconnectRoute (ctx : ConnectContext) (businessId : Uuid) :
    ConnectTxn WhatsAppConnection := do
  let business ← requireWhatsappModuleEnabled businessId
  disconnect ctx business.id

-- A send of the business met Graph error 190.
def reportInvalidToken (businessId : Uuid) (detail : String) : ConnectTxn Unit := do
  let found ← .read fun db => getConnection businessId db.toConnectTables
  match found with
  | none => pure ()
  | some connection => do
      let _ ← markInvalidToken connection.businessId detail
      pure ()

inductive ConnectOp where
  -- The process may die after any number of its steps.
  | exchange (ctx : ConnectContext) (businessId userId : Uuid) (request : ExchangeRequest)
      (dies : Option Nat)
  | healthCheck (ctx : ConnectContext) (businessId : Uuid)
  | disconnect (ctx : ConnectContext) (businessId : Uuid)
  | invalidToken (businessId : Uuid) (detail : String)
  | accountUpdate (now : Instant) (value : AccountUpdate)

def orDies {α : Type} (dies : Option Nat) (x : ConnectTxn α) : ConnectTxn α :=
  dies.elim x fun n => x.crashAfter .unhandled n

def ConnectOp.apply (db : Connections) : ConnectOp → Connections
  | .exchange ctx businessId userId request dies =>
      ((orDies dies (exchangeCodeRoute ctx businessId userId request)).run db).2
  | .healthCheck ctx businessId => ((healthCheckRoute ctx businessId).run db).2
  | .disconnect ctx businessId => ((disconnectRoute ctx businessId).run db).2
  | .invalidToken businessId detail => ((reportInvalidToken businessId detail).run db).2
  | .accountUpdate now value => ((handleAccountUpdateEvent now value).run db).2

def NextConnect (db : Connections) (op : ConnectOp) (db' : Connections) : Prop :=
  db' = op.apply db

def played (db : Connections) : List ConnectOp → List (ConnectOp × Connections)
  | [] => []
  | op :: ops => (op, op.apply db) :: played (op.apply db) ops

theorem along_played (ops : List ConnectOp) (db : Connections) :
    Run.Along NextConnect db (played db ops) := by
  induction ops generalizing db with
  | nil => trivial
  | cons op ops ih => exact ⟨rfl, ih (op.apply db)⟩

-- No business has connected an account of its own so far.
structure Unconnected (db : Connections) : Prop where
  connections : db.connections = []
  claimed : db.claimed = []

-- The row of a business as an exchange has left it, with all that the exchange has not touched.
structure Working (businessId : Uuid) (connection : WhatsAppConnection) (db₀ db : Connections) :
    Prop where
  businesses : db.businesses = db₀.businesses
  claimed : db.claimed = db₀.claimed
  others : ∀ other, other ≠ businessId →
    getConnection other db.toConnectTables = getConnection other db₀.toConnectTables
  row : getConnection businessId db.toConnectTables = some connection

def Unfinished (businessId : Uuid) (db₀ db : Connections) : Prop :=
  ∃ connection, Working businessId connection db₀ db ∧
    connection.status ∈ [ConnectionStatus.pending, .needsAttention]

structure Complete (request : ExchangeRequest) (connection : WhatsAppConnection) : Prop where
  token : given connection.accessTokenEncrypted ≠ none
  wabaId : connection.wabaId = some request.wabaId
  phoneNumberId : connection.phoneNumberId = some request.phoneNumberId
  subscribed : connection.webhookSubscribed = true
  registered : connection.phoneRegistered = true

structure Routed (businessId : Uuid) (request : ExchangeRequest)
    (connection : WhatsAppConnection) (db₀ db : Connections) : Prop where
  businesses : db.businesses = db₀.businesses.modify businessId (routeTo connection)
  claimed : db.claimed = db₀.claimed ++ [(businessId, request.phoneNumberId)]
  others : ∀ other, other ≠ businessId →
    getConnection other db.toConnectTables = getConnection other db₀.toConnectTables
  row : getConnection businessId db.toConnectTables = some connection
  complete : Complete request connection

-- Whatever an exchange has committed when it ends, or dies.
inductive Exchanged (businessId : Uuid) (request : ExchangeRequest) (db₀ : Connections) :
    Connections → Prop
  | untouched : Exchanged businessId request db₀ db₀
  | unfinished {db : Connections} : Unfinished businessId db₀ db →
      Exchanged businessId request db₀ db
  | routed {db : Connections} (connection : WhatsAppConnection) :
      Routed businessId request connection db₀ db →
      Exchanged businessId request db₀ db

section Commits

variable {businessId other : Uuid} {f : WhatsAppConnection → WhatsAppConnection}
  {connection : WhatsAppConnection} {t : ConnectTables} {db₀ db db' : Connections}

theorem getConnection_set (hf : ∀ c, (f c).businessId = c.businessId) :
    getConnection other (setConnection businessId f t) =
      if other = businessId then (getConnection businessId t).map f else getConnection other t :=
  Table.lookup_modify hf

theorem getConnection_add (newId : Uuid) (h : getConnection businessId t = none) :
    getConnection other (addConnection newId businessId t) =
      if other = businessId then some { id := newId, businessId } else getConnection other t := by
  unfold addConnection getConnection
  split
  next hsame =>
    subst hsame
    exact Table.lookup_insert_self h
  next hne =>
    exact Table.lookup_insert_ne fun hkey => hne hkey.symm

theorem Working.write (h : Working businessId connection db₀ db)
    (hf : ∀ c, (f c).businessId = c.businessId)
    (htables : db'.toConnectTables = setConnection businessId f db.toConnectTables)
    (hclaimed : db'.claimed = db.claimed) : Working businessId (f connection) db₀ db' where
  businesses := by
    rw [htables]
    exact h.businesses
  claimed := hclaimed.trans h.claimed
  others other hother := by
    rw [htables, getConnection_set hf, if_neg hother]
    exact h.others other hother
  row := by
    rw [htables, getConnection_set hf, if_pos rfl, h.row]
    rfl

variable {I : Connections → Prop} {Q : Except ConnectFailure Unit → Connections → Prop}

theorem commit_stays {f : ConnectEntry}
    (hok : ∀ db', db'.toConnectTables = f db.toConnectTables → db'.claimed = db.claimed →
      I db' ∧ Q (.ok ()) db')
    (herr : ∀ e, Q (.error e) db) : (commit f).Stays I db Q := by
  refine stays_save.mpr ⟨fun db' hwrite => ?_, fun e _ => herr e⟩
  obtain ⟨htables, hclaimed⟩ := Connections.write_ok hwrite
  exact hok db' htables (by simpa using hclaimed)

theorem refresh_stays {Q : Except ConnectFailure WhatsAppConnection → Connections → Prop}
    (hok : ∀ c, getConnection businessId db.toConnectTables = some c → Q (.ok c) db)
    (herr : ∀ e, Q (.error e) db) : (refresh businessId).Stays I db Q := by
  unfold refresh
  rw [bind_eq, stays_bind, stays_read]
  cases hrow : getConnection businessId db.toConnectTables with
  | none => exact herr _
  | some c => exact hok c hrow

theorem finish_stays {α : Type} (g : WhatsAppConnection → α) :
    (refresh businessId >>= fun connection => pure (g connection)).Stays I db fun _ _ => True := by
  rw [bind_eq, stays_bind]
  exact refresh_stays (fun _ _ => trivial) fun _ => trivial

end Commits

section Steps

variable {ctx : ConnectContext} {businessId userId : Uuid} {request : ExchangeRequest}
  {connection : WhatsAppConnection} {db₀ db : Connections} {step : ExchangeStep}
  {message token : String}

theorem failStep_stays (h : Working businessId connection db₀ db) :
    (failStep businessId step message id).Stays (Exchanged businessId request db₀) db
      fun _ _ => True := by
  unfold failStep
  rw [bind_eq, stays_bind]
  refine commit_stays (fun db' htables hclaimed => ?_) fun _ => trivial
  have hworking : Working businessId (needsAttention message connection) db₀ db' :=
    h.write (fun _ => rfl) htables hclaimed
  exact ⟨.unfinished ⟨_, hworking, by simp [needsAttention]⟩, finish_stays _⟩

theorem claimRoutingNumber_stays (h : Working businessId connection db₀ db)
    (hcomplete : Complete request connection) :
    (claimRoutingNumber ctx businessId userId).Stays (Exchanged businessId request db₀) db
      fun _ _ => True := by
  unfold claimRoutingNumber
  rw [bind_eq, stays_bind]
  refine refresh_stays (fun c hc => ?_) fun _ => trivial
  obtain rfl : connection = c := Option.some.inj (h.row.symm.trans hc)
  dsimp only
  rw [bind_eq, stays_bind, stays_read]
  dsimp only
  split
  · exact failStep_stays h
  · rw [bind_eq, stays_bind]
    refine stays_tryCommit.mpr ⟨fun db' hwrite => ?_, fun e _ => ?_⟩
    · obtain ⟨htables, hclaimed⟩ := Connections.write_ok hwrite
      have hset : ∀ c, (connected ctx userId c).businessId = c.businessId := fun _ => rfl
      refine ⟨.routed (connected ctx userId connection) ⟨?_, ?_, fun other hother => ?_, ?_, ?_⟩,
        finish_stays _⟩
      · rw [htables, ← h.businesses]
        rfl
      · rw [hclaimed, h.claimed, hcomplete.phoneNumberId]
        rfl
      · rw [htables, Function.comp_apply, getConnection_set hset, if_neg hother]
        exact h.others other hother
      · rw [htables, Function.comp_apply, getConnection_set hset, if_pos rfl]
        exact congrArg (Option.map _) h.row
      · exact ⟨hcomplete.token, hcomplete.wabaId, hcomplete.phoneNumberId,
          hcomplete.subscribed, hcomplete.registered⟩
    · cases e with
      | integrity violated =>
          dsimp only
          split
          · exact failStep_stays h
          · trivial
      | app error => trivial
      | unhandled => trivial

theorem registerPhone_stays (h : Working businessId connection db₀ db)
    (hpending : connection.status = .pending)
    (hcomplete : Complete request (registered ctx connection)) :
    (registerPhone ctx businessId userId request token).Stays (Exchanged businessId request db₀) db
      fun _ _ => True := by
  unfold registerPhone
  dsimp only
  split
  · exact failStep_stays h
  · rw [bind_eq, stays_bind]
    refine commit_stays (fun db' htables hclaimed => ?_) fun _ => trivial
    have hworking : Working businessId (registered ctx connection) db₀ db' :=
      h.write (fun _ => rfl) htables hclaimed
    exact ⟨.unfinished ⟨_, hworking, by simp [registered, hpending]⟩,
      claimRoutingNumber_stays hworking hcomplete⟩

theorem subscribeWebhooks_stays (h : Working businessId connection db₀ db)
    (hpending : connection.status = .pending)
    (hcomplete : Complete request (registered ctx (subscribed connection))) :
    (subscribeWebhooks ctx businessId userId request token).Stays
      (Exchanged businessId request db₀) db fun _ _ => True := by
  unfold subscribeWebhooks
  split
  · exact failStep_stays h
  · rw [bind_eq, stays_bind]
    refine commit_stays (fun db' htables hclaimed => ?_) fun _ => trivial
    have hworking : Working businessId (subscribed connection) db₀ db' :=
      h.write (fun _ => rfl) htables hclaimed
    exact ⟨.unfinished ⟨_, hworking, by simp [subscribed, hpending]⟩,
      registerPhone_stays hworking hpending hcomplete⟩

theorem verifyAssets_stays (h : Working businessId connection db₀ db)
    (hpending : connection.status = .pending)
    (htoken : given connection.accessTokenEncrypted ≠ none) :
    (verifyAssets ctx businessId userId request token).Stays (Exchanged businessId request db₀) db
      fun _ _ => True := by
  unfold verifyAssets
  dsimp only
  split
  · exact failStep_stays h
  next waba phone _ =>
    split
    · exact failStep_stays h
    · rw [bind_eq, stays_bind]
      refine stays_tryCommit.mpr ⟨fun db' hwrite => ?_, fun e _ => ?_⟩
      · obtain ⟨htables, hclaimed⟩ := Connections.write_ok hwrite
        have hworking : Working businessId (claimAssets request phone connection) db₀ db' :=
          h.write (fun _ => rfl) htables (by simpa using hclaimed)
        have hcomplete : Complete request
            (registered ctx (subscribed (claimAssets request phone connection))) :=
          ⟨htoken, rfl, rfl, rfl, rfl⟩
        exact ⟨.unfinished ⟨_, hworking, by simp [claimAssets, hpending]⟩,
          subscribeWebhooks_stays hworking hpending hcomplete⟩
      · cases e with
        | integrity violated =>
            dsimp only
            split
            · exact failStep_stays h
            · trivial
        | app error => trivial
        | unhandled => trivial

theorem exchangeCode_stays (h : Working businessId connection db₀ db)
    (hpending : connection.status = .pending) :
    (exchangeCode ctx businessId userId request).Stays (Exchanged businessId request db₀) db
      fun _ _ => True := by
  unfold exchangeCode
  split
  · exact failStep_stays h
  next tokenData _ =>
    cases hgiven : given tokenData.accessToken with
    | none => exact failStep_stays h
    | some token =>
        dsimp only
        rw [bind_eq, stays_bind]
        refine commit_stays (fun db' htables hclaimed => ?_) fun _ => trivial
        have hworking : Working businessId (storeToken ctx token tokenData.expiresIn connection)
            db₀ db' := h.write (fun _ => rfl) htables hclaimed
        exact ⟨.unfinished ⟨_, hworking, by simp [storeToken, hpending]⟩,
          verifyAssets_stays hworking hpending
            (by simp [storeToken, given, encryptCredential_ne (given_ne hgiven)])⟩

-- The first commit of an exchange makes the row of its business if there is none yet.
theorem staged_working {f : WhatsAppConnection → WhatsAppConnection} {db' : Connections}
    (htables : db'.toConnectTables = (setConnection businessId f ∘
      (getConnection businessId db.toConnectTables).elim (addConnection ctx.newId businessId)
        fun _ => id) db.toConnectTables)
    (hclaimed : db'.claimed = db.claimed) (hf : ∀ c, (f c).businessId = c.businessId) :
    ∃ c, Working businessId (f c) db db' := by
  cases hrow : getConnection businessId db.toConnectTables with
  | none =>
      rw [hrow] at htables
      refine ⟨{ id := ctx.newId, businessId }, ?_, hclaimed, fun other hother => ?_, ?_⟩
      · rw [htables]
        rfl
      · rw [htables, Function.comp_apply, getConnection_set hf, if_neg hother]
        simp [getConnection_add _ hrow, hother]
      · rw [htables, Function.comp_apply, getConnection_set hf, if_pos rfl]
        simp [getConnection_add _ hrow]
  | some c =>
      rw [hrow] at htables
      have hhere : Working businessId c db db := ⟨rfl, rfl, fun _ _ => rfl, hrow⟩
      exact ⟨c, hhere.write hf htables hclaimed⟩

theorem runExchange_stays :
    (runExchange ctx businessId userId request).Stays (Exchanged businessId request db) db
      fun _ _ => True := by
  unfold runExchange getOrCreateConnection
  simp only [bind_eq, pure_eq, stays_bind, stays_read, stays_done]
  split
  · unfold failStep
    rw [bind_eq, stays_bind]
    refine commit_stays (fun db' htables hclaimed => ?_) fun _ => trivial
    obtain ⟨c, hworking⟩ := staged_working htables hclaimed fun _ => rfl
    exact ⟨.unfinished ⟨_, hworking, by simp [needsAttention]⟩, finish_stays _⟩
  · rw [stays_bind]
    refine commit_stays (fun db' htables hclaimed => ?_) fun _ => trivial
    obtain ⟨c, hworking⟩ := staged_working htables hclaimed fun _ => rfl
    exact ⟨.unfinished ⟨_, hworking, by simp [startExchange]⟩, exchangeCode_stays hworking rfl⟩

end Steps

-- The answer that a health check of the row gets from Meta.
def checkup (ctx : ConnectContext) (connection : WhatsAppConnection) : Option PhoneData :=
  match decrypted ctx.crypto connection with
  | .ok (some token) =>
      connection.phoneNumberId.bind fun number =>
        (ctx.client.getPhoneNumber number token).toOption
  | _ => none

def Flags (f : WhatsAppConnection → WhatsAppConnection) : Prop :=
  ∀ c, (f c).businessId = c.businessId ∧
    (f c).status ∈ [ConnectionStatus.needsAttention, .disconnected]

-- All that an operation can make of the database.
inductive Change (db : Connections) : ConnectOp → Connections → Prop
  | nothing {op : ConnectOp} : Change db op db
  | exchanged {ctx : ConnectContext} {businessId userId : Uuid} {request : ExchangeRequest}
      {dies : Option Nat} {db' : Connections} (business : Business) :
      db.businesses.lookup businessId = some business →
      Exchanged businessId request db db' →
      Change db (.exchange ctx businessId userId request dies) db'
  | flagged {op : ConnectOp} {db' : Connections} (businessId : Uuid)
      (f : WhatsAppConnection → WhatsAppConnection) : Flags f →
      db'.toConnectTables = setConnection businessId f db.toConnectTables →
      db'.claimed = db.claimed → Change db op db'
  | checked {ctx : ConnectContext} {businessId : Uuid} {db' : Connections}
      (connection : WhatsAppConnection) (phone : PhoneData) :
      getConnection businessId db.toConnectTables = some connection →
      checkup ctx connection = some phone →
      db'.toConnectTables = setConnection businessId (healthy ctx.now phone) db.toConnectTables →
      db'.claimed = db.claimed → Change db (.healthCheck ctx businessId) db'
  | disconnected {ctx : ConnectContext} {businessId : Uuid} {db' : Connections}
      (connection : WhatsAppConnection) :
      getConnection businessId db.toConnectTables = some connection →
      db'.toConnectTables = setConnection businessId (disconnected ctx.now)
        (setBusiness businessId (unroute connection) db.toConnectTables) →
      db'.claimed = db.claimed → Change db (.disconnect ctx businessId) db'

section Operations

variable {ctx : ConnectContext} {businessId : Uuid} {db : Connections} {op : ConnectOp}
  {I : Connections → Prop}

theorem needsAttention_flags {reason : String} : Flags (needsAttention reason) := fun c =>
  ⟨rfl, by simp [needsAttention]⟩

theorem unhealthy_flags {now : Instant} {reason : String} : Flags (unhealthy now reason) := fun c =>
  ⟨rfl, by simp [unhealthy, needsAttention]⟩

theorem flag_stays {α : Type} {f : WhatsAppConnection → WhatsAppConnection} (hf : Flags f)
    {x : Unit → ConnectTxn α} (hx : ∀ db', (x ()).Stays (Change db op) db' fun _ _ => True) :
    ((commit (setConnection businessId f)).bind x).Stays (Change db op) db fun _ _ => True :=
  stays_bind.mpr (commit_stays (fun db' htables hclaimed =>
    ⟨.flagged businessId f hf htables hclaimed, hx db'⟩) fun _ => trivial)

theorem found_stays {α β : Type} {q : Connections → Option α} {e : ConnectFailure}
    {x : α → ConnectTxn β} (hx : ∀ a, q db = some a → (x a).Stays I db fun _ _ => True) :
    ((Txn.read q).bind fun found => (orFail e found).bind x).Stays I db fun _ _ => True := by
  rw [stays_bind, stays_read]
  exact stays_bind.mpr (stays_orFail.mpr ⟨hx, fun _ => trivial⟩)

theorem route_stays {α : Type} {x : Uuid → ConnectTxn α}
    (hx : ∀ business, db.businesses.lookup businessId = some business →
      (x businessId).Stays I db fun _ _ => True) :
    (requireWhatsappModuleEnabled businessId >>= fun business => x business.id).Stays I db
      fun _ _ => True := by
  unfold requireWhatsappModuleEnabled
  simp only [bind_eq, bind_assoc]
  refine found_stays fun business hbusiness => ?_
  have hid : business.id = businessId := Table.lookup_key hbusiness
  refine stays_bind.mpr (stays_require.mpr ⟨fun _ => ?_, fun _ => trivial⟩)
  simpa only [pure_eq, Txn.bind, hid] using hx business hbusiness

theorem healthCheck_stays :
    (healthCheck ctx businessId).Stays (Change db (.healthCheck ctx businessId)) db
      fun _ _ => True := by
  unfold healthCheck
  refine found_stays fun connection hrow => ?_
  split
  · trivial
  · split
    · trivial
    · exact flag_stays unhealthy_flags fun _ => finish_stays _
    next token htoken =>
      refine stays_bind.mpr (stays_orFail.mpr ⟨fun number hnumber => ?_, fun _ => trivial⟩)
      dsimp only
      split
      · exact flag_stays unhealthy_flags fun _ => finish_stays _
      next phone hphone =>
        have hcheckup : checkup ctx connection = some phone := by
          simp [checkup, htoken, hnumber, hphone, Except.toOption]
        refine stays_bind.mpr (commit_stays (fun db' htables hclaimed => ?_) fun _ => trivial)
        exact ⟨.checked connection phone hrow hcheckup htables hclaimed, finish_stays _⟩

theorem disconnect_stays :
    (disconnect ctx businessId).Stays (Change db (.disconnect ctx businessId)) db
      fun _ _ => True := by
  unfold disconnect
  refine found_stays fun connection hrow => ?_
  refine stays_bind.mpr (commit_stays (fun db' htables hclaimed => ?_) fun _ => trivial)
  exact ⟨.disconnected connection hrow htables hclaimed,
    refresh_stays (fun _ _ => trivial) fun _ => trivial⟩

theorem reported_flags {now : Instant} {event : AccountEvent}
    {outcome : ConnectionStatus × String} (h : accountEventOutcome event = some outcome) :
    Flags (reported now outcome) := by
  intro connection
  cases event <;> simp only [accountEventOutcome, Option.some.injEq, reduceCtorEq] at h <;>
    subst h <;> simp [reported]

theorem handleAccountUpdateEvent_stays {now : Instant} {value : AccountUpdate} :
    (handleAccountUpdateEvent now value).Stays (Change db (.accountUpdate now value)) db
      fun _ _ => True := by
  unfold handleAccountUpdateEvent
  split
  next outcome wabaId houtcome _ =>
    obtain ⟨event, -, hevent⟩ := Option.bind_eq_some_iff.mp houtcome
    rw [bind_eq, stays_bind, stays_read]
    dsimp only
    split
    · trivial
    · exact commit_stays (fun db' htables hclaimed =>
        ⟨.flagged _ _ (reported_flags hevent) htables hclaimed, trivial⟩) fun _ => trivial
  next => trivial

theorem reportInvalidToken_stays {detail : String} :
    (reportInvalidToken businessId detail).Stays (Change db (.invalidToken businessId detail)) db
      fun _ _ => True := by
  unfold reportInvalidToken markInvalidToken
  rw [bind_eq, stays_bind, stays_read]
  dsimp only
  split
  · trivial
  · simp only [bind_eq, bind_assoc]
    refine flag_stays needsAttention_flags fun db' => ?_
    rw [stays_bind]
    exact refresh_stays (fun _ _ => trivial) fun _ => trivial

theorem exchange_stays {userId : Uuid} {request : ExchangeRequest} {dies : Option Nat} :
    (orDies dies (exchangeCodeRoute ctx businessId userId request)).Stays
      (Change db (.exchange ctx businessId userId request dies)) db fun _ _ => True := by
  have hroute : (exchangeCodeRoute ctx businessId userId request).Stays
      (Change db (.exchange ctx businessId userId request dies)) db fun _ _ => True := by
    refine route_stays (x := fun businessId => runExchange ctx businessId userId request)
      fun business hbusiness => ?_
    exact runExchange_stays.weaken fun db' h => .exchanged business hbusiness h
  cases dies with
  | none => exact hroute
  | some n => exact hroute.crashAfter fun _ => trivial

theorem apply_change (op : ConnectOp) (db : Connections) : Change db op (op.apply db) := by
  cases op with
  | exchange ctx businessId userId request dies => exact exchange_stays.run .nothing
  | healthCheck ctx businessId =>
      exact (route_stays (x := healthCheck ctx) fun _ _ => healthCheck_stays).run .nothing
  | disconnect ctx businessId =>
      exact (route_stays (x := disconnect ctx) fun _ _ => disconnect_stays).run .nothing
  | invalidToken businessId detail => exact reportInvalidToken_stays.run .nothing
  | accountUpdate now value => exact handleAccountUpdateEvent_stays.run .nothing

end Operations

end NextgenBackend.Whatsapp
