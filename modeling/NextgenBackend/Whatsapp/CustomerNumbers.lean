import NextgenBackend.Whatsapp.Exchange

namespace NextgenBackend.Whatsapp

open Txn Run

def routingNumber (businessId : Uuid) (t : ConnectTables) : Option String :=
  (t.businesses.lookup businessId).bind fun business => business.whatsappPhoneNumberId

-- Messages to the number of the connection reach the business.
structure Receives (t : ConnectTables) (connection : WhatsAppConnection) : Prop where
  subscribed : connection.webhookSubscribed = true
  registered : connection.phoneRegistered = true
  number : connection.phoneNumberId ≠ none
  routed : routingNumber connection.businessId t = connection.phoneNumberId

instance (t : ConnectTables) (connection : WhatsAppConnection) :
    Decidable (Receives t connection) :=
  decidable_of_iff (connection.webhookSubscribed = true ∧ connection.phoneRegistered = true ∧
      connection.phoneNumberId ≠ none ∧
      routingNumber connection.businessId t = connection.phoneNumberId)
    ⟨fun ⟨h₁, h₂, h₃, h₄⟩ => ⟨h₁, h₂, h₃, h₄⟩, fun ⟨h₁, h₂, h₃, h₄⟩ => ⟨h₁, h₂, h₃, h₄⟩⟩

structure Sound (t : ConnectTables) (connection : WhatsAppConnection) : Prop where
  token : given connection.accessTokenEncrypted ≠ none
  receives : Receives t connection

def ConnectedRowsSound (t : ConnectTables) : Prop :=
  ∀ businessId connection, getConnection businessId t = some connection →
    connection.status = .connected → Sound t connection

-- A health check that would restore a row finds it able to receive.
def RestoresReceiving (db : Connections) (op : ConnectOp) (_ : Connections) : Prop :=
  match op with
  | .healthCheck ctx businessId => ∀ connection,
      getConnection businessId db.toConnectTables = some connection →
      connection.status = .needsAttention → (checkup ctx connection).isSome →
      Receives db.toConnectTables connection
  | _ => True

instance (db db' : Connections) : (op : ConnectOp) → Decidable (RestoresReceiving db op db')
  | .healthCheck ctx businessId =>
      inferInstanceAs (Decidable (∀ connection ∈ getConnection businessId db.toConnectTables,
        connection.status = .needsAttention → (checkup ctx connection).isSome →
        Receives db.toConnectTables connection))
  | .exchange .. => isTrue trivial
  | .disconnect .. => isTrue trivial
  | .invalidToken .. => isTrue trivial
  | .accountUpdate .. => isTrue trivial

section Preservation

variable {ctx : ConnectContext} {businessId other : Uuid} {connection : WhatsAppConnection}
  {phone : PhoneData} {request : ExchangeRequest} {t t' : ConnectTables}
  {db db' : Connections} {op : ConnectOp} {f : WhatsAppConnection → WhatsAppConnection}

theorem routingNumber_ne {set : Business → Business} (hset : ∀ b, (set b).id = b.id)
    (hother : other ≠ businessId)
    (hbusinesses : t'.businesses = t.businesses.modify businessId set) :
    routingNumber other t' = routingNumber other t := by
  unfold routingNumber
  rw [hbusinesses, Table.lookup_modify_ne hset hother]

theorem Sound.of_routing (h : Sound t connection)
    (hrouting : routingNumber connection.businessId t' = routingNumber connection.businessId t) :
    Sound t' connection :=
  ⟨h.token, h.receives.subscribed, h.receives.registered, h.receives.number,
    hrouting.trans h.receives.routed⟩

-- It is enough to look at the row that an operation is about.
theorem sound_of_row (businessId : Uuid) (h : ConnectedRowsSound t)
    (hothers : ∀ other, other ≠ businessId →
      getConnection other t' = getConnection other t ∧
        routingNumber other t' = routingNumber other t)
    (hrow : ∀ connection, getConnection businessId t' = some connection →
      connection.status = .connected → Sound t' connection) : ConnectedRowsSound t' := by
  intro other connection hget hconnected
  by_cases hsame : other = businessId
  · subst hsame
    exact hrow connection hget hconnected
  · obtain ⟨hconnection, hrouting⟩ := hothers other hsame
    have hsound : Sound t connection := h other connection (hconnection ▸ hget) hconnected
    have hid : connection.businessId = other := Table.lookup_key hget
    exact hsound.of_routing (hid ▸ hrouting)

theorem sound_set (h : ConnectedRowsSound t) (hf : ∀ c, (f c).businessId = c.businessId)
    (hrow : ∀ connection, getConnection businessId t = some connection →
      (f connection).status = .connected → Sound t (f connection)) :
    ConnectedRowsSound (setConnection businessId f t) := by
  refine sound_of_row businessId h (fun other hother => ⟨?_, rfl⟩) fun connection hget hconnected => ?_
  · rw [getConnection_set hf, if_neg hother]
  · rw [getConnection_set hf, if_pos rfl] at hget
    obtain ⟨c, hc, rfl⟩ := Option.map_eq_some_iff.mp hget
    exact (hrow c hc hconnected).of_routing rfl

theorem unfinished_sound (h : Unfinished businessId db db')
    (hsound : ConnectedRowsSound db.toConnectTables) : ConnectedRowsSound db'.toConnectTables := by
  obtain ⟨connection, hworking, hstatus⟩ := h
  refine sound_of_row businessId hsound (fun other hother => ⟨hworking.others other hother, ?_⟩)
    fun c hget hconnected => ?_
  · unfold routingNumber
    rw [hworking.businesses]
  · obtain rfl : connection = c := Option.some.inj (hworking.row.symm.trans hget)
    simp [hconnected] at hstatus

theorem routed_sound {business : Business} (h : Routed businessId request connection db db')
    (hbusiness : db.businesses.lookup businessId = some business)
    (hsound : ConnectedRowsSound db.toConnectTables) : ConnectedRowsSound db'.toConnectTables := by
  have hroute : ∀ b, (routeTo connection b).id = b.id := fun _ => rfl
  refine sound_of_row businessId hsound (fun other hother => ⟨h.others other hother, ?_⟩)
    fun c hget _ => ?_
  · exact routingNumber_ne hroute hother h.businesses
  · obtain rfl : connection = c := Option.some.inj (h.row.symm.trans hget)
    have hid : connection.businessId = businessId := Table.lookup_key hget
    have hnumber := h.complete.phoneNumberId
    refine ⟨h.complete.token, h.complete.subscribed, h.complete.registered, by simp [hnumber], ?_⟩
    unfold routingNumber
    rw [h.businesses, hid, Table.lookup_modify_self (f := routeTo connection) hroute, hbusiness]
    rfl

theorem checkup_token (h : checkup ctx connection = some phone) :
    given connection.accessTokenEncrypted ≠ none := by
  intro hnone
  simp [checkup, decrypted, hnone] at h

theorem healthy_sound (hcheckup : checkup ctx connection = some phone)
    (hsound : connection.status = .connected → Sound t connection)
    (hrestores : connection.status = .needsAttention → Receives t connection)
    (hconnected : (healthy ctx.now phone connection).status = .connected) :
    Sound t (healthy ctx.now phone connection) := by
  have hreceives : Receives t connection := by
    by_cases hneeds : connection.status = .needsAttention
    · exact hrestores hneeds
    · have hstatus : connection.status = .connected := by
        simpa [healthy, hneeds] using hconnected
      exact (hsound hstatus).receives
  have htoken := checkup_token hcheckup
  unfold healthy
  dsimp only
  split
  · exact ⟨htoken, hreceives.subscribed, hreceives.registered, hreceives.number, hreceives.routed⟩
  · exact ⟨htoken, hreceives.subscribed, hreceives.registered, hreceives.number, hreceives.routed⟩

theorem healthy_businessId : (healthy ctx.now phone connection).businessId =
    connection.businessId := by
  unfold healthy
  dsimp only
  split <;> rfl

theorem change_sound (h : Change db op db') (hrestores : RestoresReceiving db op db')
    (hsound : ConnectedRowsSound db.toConnectTables) : ConnectedRowsSound db'.toConnectTables := by
  cases h with
  | nothing => exact hsound
  | exchanged business hbusiness hexchanged =>
      cases hexchanged with
      | untouched => exact hsound
      | unfinished h => exact unfinished_sound h hsound
      | routed connection h => exact routed_sound h hbusiness hsound
  | flagged businessId f hflags htables hclaimed =>
      rw [htables]
      refine sound_set hsound (fun c => (hflags c).1) fun connection hget hconnected => ?_
      have hstatus := (hflags connection).2
      simp [hconnected] at hstatus
  | checked connection phone hget hcheckup htables hclaimed =>
      rw [htables]
      refine sound_set hsound (fun _ => healthy_businessId) fun c hc hconnected => ?_
      obtain rfl : connection = c := Option.some.inj (hget.symm.trans hc)
      exact healthy_sound hcheckup (hsound _ _ hget)
        (fun hneeds => hrestores connection hget hneeds (by simp [hcheckup])) hconnected
  | @disconnected ctx businessId _ connection hget htables hclaimed =>
      rw [htables]
      have hset : ∀ b, (unroute connection b).id = b.id := fun _ => rfl
      have hkey (now : Instant) : ∀ c, (disconnected now c).businessId = c.businessId :=
        fun _ => rfl
      refine sound_of_row businessId hsound (fun other hother => ⟨?_, ?_⟩) fun c hc hconnected => ?_
      · rw [getConnection_set (hkey _), if_neg hother]
        rfl
      · exact routingNumber_ne hset hother rfl
      · rw [getConnection_set (hkey _), if_pos rfl] at hc
        obtain ⟨c, -, rfl⟩ := Option.map_eq_some_iff.mp hc
        cases hconnected

end Preservation

theorem connected_rows_sound (db : Connections) (hfresh : Unconnected db)
    (steps : List (ConnectOp × Connections)) (hsteps : Along NextConnect db steps)
    (hrestores : Along RestoresReceiving db steps) :
    ConnectedRowsSound (last db steps).toConnectTables := by
  refine (hsteps.and hrestores).invariant (I := fun db => ConnectedRowsSound db.toConnectTables)
    ?_ fun db op db' hsound hstep => ?_
  · intro businessId connection hget
    simp [getConnection, hfresh.connections, Table.lookup] at hget
  · obtain ⟨rfl, hrestores⟩ := hstep
    exact change_sound (apply_change op db) hrestores hsound

def obliging : MetaGraphClient where
  exchangeCodeForToken _ := .ok ⟨some "token", none⟩
  getWaba wabaId _ := .ok ⟨some wabaId⟩
  getPhoneNumber _ _ := .ok {}
  subscribeApp _ _ := .ok ()
  registerPhone _ _ _ := .ok ()

def unsubscribable : MetaGraphClient :=
  { obliging with subscribeApp := fun _ _ => .error ⟨"timeout", none, none, none, none⟩ }

def calling (client : MetaGraphClient) : ConnectContext where
  crypto := none
  client := client
  now := 0
  newId := 7
  pin := "123456"

def signup (wabaId phoneNumberId : String) (hw : wabaId ≠ "") (hp : phoneNumberId ≠ "") :
    ExchangeRequest :=
  ⟨"code", wabaId, phoneNumberId, by decide, hw, hp⟩

def unconnectedShop : Connections :=
  ⟨⟨[{ id := 1 }], []⟩, [], fun c => by cases c <;> decide⟩

theorem unconnectedShop_fresh : Unconnected unconnectedShop := ⟨rfl, rfl⟩

def connectedThenRestricted : List ConnectOp :=
  [.exchange (calling obliging) 1 9 (signup "waba" "phone" (by decide) (by decide)) none,
    .accountUpdate 1 ⟨some .accountRestriction, some "waba"⟩,
    .healthCheck (calling obliging) 1]

theorem restricted_connection_restored :
    ((getConnection 1 (last unconnectedShop
      (played unconnectedShop connectedThenRestricted)).toConnectTables).map
        fun connection => connection.status) = some .connected ∧
    ConnectedRowsSound (last unconnectedShop
      (played unconnectedShop connectedThenRestricted)).toConnectTables :=
  ⟨by decide +kernel, connected_rows_sound unconnectedShop unconnectedShop_fresh _
    (along_played _ _) (by decide +kernel)⟩

def checkedBeforeSubscribed : List ConnectOp :=
  [.exchange (calling unsubscribable) 1 9 (signup "waba" "phone" (by decide) (by decide)) none,
    .healthCheck (calling obliging) 1]

theorem health_check_connects_unsubscribed :
    Unconnected unconnectedShop ∧
    Along NextConnect unconnectedShop (played unconnectedShop checkedBeforeSubscribed) ∧
    ¬ ConnectedRowsSound (last unconnectedShop
      (played unconnectedShop checkedBeforeSubscribed)).toConnectTables := by
  refine ⟨unconnectedShop_fresh, along_played _ _, fun hsound => ?_⟩
  have hrow : (getConnection 1 (last unconnectedShop
      (played unconnectedShop checkedBeforeSubscribed)).toConnectTables).any fun connection =>
        connection.status = .connected ∧ connection.webhookSubscribed = false := by
    decide +kernel
  obtain ⟨connection, hget, hconnection⟩ := (Option.any_eq_true _ _).mp hrow
  obtain ⟨hconnected, hunsubscribed⟩ := of_decide_eq_true hconnection
  have hsubscribed := (hsound 1 connection hget hconnected).receives.subscribed
  rw [hunsubscribed] at hsubscribed
  cases hsubscribed

-- The account of a customer stays on record for as long as its number is routed.
def AccountsOnRecord (db : Connections) : Prop :=
  ∀ businessId business number, db.businesses.lookup businessId = some business →
    business.whatsappPhoneNumberId = some number → (businessId, number) ∈ db.claimed →
    given business.whatsappBusinessAccountId ≠ none

structure OwnCredentials (settings : PlatformSettings) (t : ConnectTables) (businessId : Uuid)
    (creds : WhatsAppCredentials) : Prop where
  stored : ∃ connection, getConnection businessId t = some connection ∧
    connection.phoneNumberId = some creds.phoneNumberId ∧
    decrypted settings.crypto connection = .ok (some creds.accessToken)
  routed : routingNumber businessId t = some creds.phoneNumberId
  unrouted : ∀ other ∈ t.businesses, other.id ≠ businessId →
    other.whatsappPhoneNumberId ≠ some creds.phoneNumberId
  unheld : ∀ connection ∈ t.connections, connection.businessId ≠ businessId →
    connection.phoneNumberId ≠ some creds.phoneNumberId

structure Entitled (settings : PlatformSettings) (db : Connections) (businessId : Uuid)
    (creds : WhatsAppCredentials) : Prop where
  platform : creds.source = .platform → (businessId, creds.phoneNumberId) ∉ db.claimed
  business : creds.source = .business →
    OwnCredentials settings db.toConnectTables businessId creds

-- A disconnect finds no number of a customer still routed besides that of the row, while the
-- account on record is that of the row.
def DisconnectsWhatItRoutes (db : Connections) (op : ConnectOp) (_ : Connections) : Prop :=
  match op with
  | .disconnect _ businessId => ∀ business, db.businesses.lookup businessId = some business →
      ∀ connection, getConnection businessId db.toConnectTables = some connection →
      ∀ number, business.whatsappPhoneNumberId = some number → (businessId, number) ∈ db.claimed →
      connection.phoneNumberId ≠ some number →
      business.whatsappBusinessAccountId ≠ connection.wabaId
  | _ => True

instance (db db' : Connections) : (op : ConnectOp) →
    Decidable (DisconnectsWhatItRoutes db op db')
  | .disconnect _ businessId =>
      inferInstanceAs (Decidable (∀ business ∈ db.businesses.lookup businessId,
        ∀ connection ∈ getConnection businessId db.toConnectTables,
        ∀ number ∈ business.whatsappPhoneNumberId, (businessId, number) ∈ db.claimed →
        connection.phoneNumberId ≠ some number →
        business.whatsappBusinessAccountId ≠ connection.wabaId))
  | .exchange .. => isTrue trivial
  | .healthCheck .. => isTrue trivial
  | .invalidToken .. => isTrue trivial
  | .accountUpdate .. => isTrue trivial

section Preservation

variable {ctx : ConnectContext} {businessId : Uuid} {connection : WhatsAppConnection} {request : ExchangeRequest}
  {db db' : Connections} {op : ConnectOp} {settings : PlatformSettings} {business : Business}
  {creds : WhatsAppCredentials}

theorem accounts_of_same (h : AccountsOnRecord db) (hbusinesses : db'.businesses = db.businesses)
    (hclaimed : db'.claimed = db.claimed) : AccountsOnRecord db' := by
  unfold AccountsOnRecord
  rw [hbusinesses, hclaimed]
  exact h

theorem accounts_routed (h : Routed businessId request connection db db')
    (haccounts : AccountsOnRecord db) : AccountsOnRecord db' := by
  intro other business number hbusiness hnumber hclaimed
  rw [h.businesses, Table.lookup_modify (f := routeTo connection) fun _ => rfl] at hbusiness
  split at hbusiness
  · obtain ⟨before, -, rfl⟩ := Option.map_eq_some_iff.mp hbusiness
    simp [routeTo, h.complete.wabaId, given, request.wabaId_ne]
  next hother =>
    have hbefore : (other, number) ∈ db.claimed := by
      rw [h.claimed] at hclaimed
      rcases List.mem_append.mp hclaimed with hbefore | hnew
      · exact hbefore
      · have hpair := List.mem_singleton.mp hnew
        exact absurd (congrArg Prod.fst hpair) hother
    exact haccounts other business number hbusiness hnumber hbefore

theorem unroute_keeps {number : String}
    (hrouted : (unroute connection business).whatsappPhoneNumberId = some number) :
    business.whatsappPhoneNumberId = some number ∧ connection.phoneNumberId ≠ some number := by
  unfold unroute at hrouted
  dsimp only at hrouted
  split at hrouted
  · cases hrouted
  next hne => exact ⟨hrouted, fun hsame => hne (hrouted.trans hsame.symm)⟩

theorem accounts_disconnected (haccounts : AccountsOnRecord db)
    (hget : getConnection businessId db.toConnectTables = some connection)
    (hbusinesses : db'.businesses = db.businesses.modify businessId (unroute connection))
    (hclaimed : db'.claimed = db.claimed)
    (hdisconnects : DisconnectsWhatItRoutes db (.disconnect ctx businessId) db') :
    AccountsOnRecord db' := by
  intro other business number hbusiness hnumber hmem
  rw [hclaimed] at hmem
  rw [hbusinesses, Table.lookup_modify (f := unroute connection) fun _ => rfl] at hbusiness
  split at hbusiness
  next hsame =>
    subst hsame
    obtain ⟨before, hbefore, rfl⟩ := Option.map_eq_some_iff.mp hbusiness
    obtain ⟨hrouted, hother⟩ := unroute_keeps hnumber
    have haccount : before.whatsappBusinessAccountId ≠ connection.wabaId :=
      hdisconnects before hbefore connection hget number hrouted hmem hother
    have hkept : (unroute connection before).whatsappBusinessAccountId =
        before.whatsappBusinessAccountId := if_neg haccount
    rw [hkept]
    exact haccounts other before number hbefore hrouted hmem
  next => exact haccounts other business number hbusiness hnumber hmem

theorem change_accounts (h : Change db op db') (hdisconnects : DisconnectsWhatItRoutes db op db')
    (haccounts : AccountsOnRecord db) : AccountsOnRecord db' := by
  cases h with
  | nothing => exact haccounts
  | exchanged business hbusiness hexchanged =>
      cases hexchanged with
      | untouched => exact haccounts
      | unfinished h =>
          obtain ⟨connection, hworking, -⟩ := h
          exact accounts_of_same haccounts hworking.businesses hworking.claimed
      | routed connection h => exact accounts_routed h haccounts
  | flagged businessId f hflags htables hclaimed =>
      exact accounts_of_same haccounts (by rw [htables]; rfl) hclaimed
  | checked connection phone hget hcheckup htables hclaimed =>
      exact accounts_of_same haccounts (by rw [htables]; rfl) hclaimed
  | disconnected connection hget htables hclaimed =>
      exact accounts_disconnected haccounts hget (by rw [htables]; rfl) hclaimed hdisconnects

theorem platform_unclaimed (haccounts : AccountsOnRecord db)
    (hbusiness : db.businesses.lookup businessId = some business)
    {connection : Option WhatsAppConnection}
    (hcreds : platformCredentials settings business connection = some creds) :
    creds.source = .platform ∧ (businessId, creds.phoneNumberId) ∉ db.claimed := by
  unfold platformCredentials at hcreds
  split at hcreds
  · cases hcreds
  · split at hcreds
    · cases hcreds
    next hnone =>
      obtain ⟨number, hgiven, rfl⟩ := Option.map_eq_some_iff.mp hcreds
      have hnumber : business.whatsappPhoneNumberId = some number :=
        (Option.filter_eq_some_iff.mp hgiven).1
      refine ⟨rfl, fun hclaimed => ?_⟩
      have haccount := haccounts businessId business number hbusiness hnumber hclaimed
      exact hnone (Option.isSome_iff_ne_none.mpr haccount)

theorem business_own (hbusiness : db.businesses.lookup businessId = some business)
    (hget : getConnection businessId db.toConnectTables = some connection)
    (howns : ownsRoutingNumber business connection = true)
    (hcreds : businessCredentials settings connection = some creds) :
    creds.source = .business ∧ OwnCredentials settings db.toConnectTables businessId creds := by
  unfold businessCredentials at hcreds
  split at hcreds
  · cases hcreds
  · split at hcreds
    next token number hdecrypted hnumber =>
      obtain rfl := Option.some.inj hcreds
      have hrouted : business.whatsappPhoneNumberId = some number := by
        have hsame := (Bool.and_eq_true _ _ ▸ howns).2
        exact (of_decide_eq_true hsame).symm.trans hnumber
      have hid : business.id = businessId := Table.lookup_key hbusiness
      have hrow : connection.businessId = businessId := Table.lookup_key hget
      refine ⟨rfl, ⟨connection, hget, hnumber, hdecrypted⟩, ?_, ?_, ?_⟩
      · simp [routingNumber, hbusiness, hrouted]
      · intro other hother hne hsame
        have hunique : db.businesses.Unique fun business => business.whatsappPhoneNumberId :=
          db.valid .uqBusinessesWhatsappPhoneNumberId
        have heq : other = business :=
          hunique.eq_of_mem hother (Table.lookup_mem hbusiness) hsame hrouted
        exact hne (heq ▸ hid)
      · intro other hother hne hsame
        have hunique : db.connections.Unique fun connection => connection.phoneNumberId :=
          db.valid .uqWhatsappConnectionsPhoneNumberId
        have heq : other = connection :=
          hunique.eq_of_mem hother (Table.lookup_mem hget) hsame hnumber
        exact hne (heq ▸ hrow)
    next => cases hcreds

theorem resolve_entitled (haccounts : AccountsOnRecord db)
    (hbusiness : db.businesses.lookup businessId = some business)
    (hcreds : resolveWhatsappCredentials settings business db.toConnectTables = some creds) :
    Entitled settings db businessId creds := by
  have hid : business.id = businessId := Table.lookup_key hbusiness
  unfold resolveWhatsappCredentials at hcreds
  dsimp only at hcreds
  rw [hid] at hcreds
  split at hcreds
  next connection hfilter =>
    obtain ⟨hget, howns⟩ := Option.filter_eq_some_iff.mp hfilter
    obtain ⟨hsource, hown⟩ := business_own hbusiness hget howns hcreds
    exact ⟨fun hplatform => by simp [hsource] at hplatform, fun _ => hown⟩
  next =>
    obtain ⟨hsource, hunclaimed⟩ := platform_unclaimed haccounts hbusiness hcreds
    exact ⟨fun _ => hunclaimed, fun hown => by simp [hsource] at hown⟩

end Preservation

theorem resolved_credentials_entitled (settings : PlatformSettings) (db : Connections)
    (hfresh : Unconnected db) (steps : List (ConnectOp × Connections))
    (hsteps : Along NextConnect db steps) (hdisconnects : Along DisconnectsWhatItRoutes db steps)
    (businessId : Uuid) (business : Business) (creds : WhatsAppCredentials)
    (hbusiness : (last db steps).businesses.lookup businessId = some business)
    (hcreds : resolveWhatsappCredentials settings business (last db steps).toConnectTables =
      some creds) : Entitled settings (last db steps) businessId creds := by
  have haccounts : AccountsOnRecord (last db steps) := by
    refine (hsteps.and hdisconnects).invariant ?_ fun db op db' haccounts hstep => ?_
    · intro businessId business number _ _ hclaimed
      simp [hfresh.claimed] at hclaimed
    · obtain ⟨rfl, hdisconnects⟩ := hstep
      exact change_accounts (apply_change op db) hdisconnects haccounts
  exact resolve_entitled haccounts hbusiness hcreds

def platform : PlatformSettings := ⟨none, "platform token"⟩

def reconnectedAfterFailure : List ConnectOp :=
  [.exchange (calling obliging) 1 9 (signup "waba-1" "phone-1" (by decide) (by decide)) none,
    .exchange (calling unsubscribable) 1 9 (signup "waba-2" "phone-2" (by decide) (by decide)) none,
    .disconnect (calling obliging) 1,
    .exchange (calling obliging) 1 9 (signup "waba-1" "phone-1" (by decide) (by decide)) none]

theorem reconnected_credentials_entitled :
    Entitled platform (last unconnectedShop (played unconnectedShop reconnectedAfterFailure)) 1
      ⟨"phone-1", "token", .business, some 7⟩ :=
  resolved_credentials_entitled platform unconnectedShop unconnectedShop_fresh _
    (along_played _ _) (by decide +kernel) 1
    { id := 1
      whatsappPhoneNumberId := some "phone-1"
      whatsappBusinessAccountId := some "waba-1" }
    _ (by decide +kernel) (by decide +kernel)

def disconnectedAfterFailure : List ConnectOp :=
  [.exchange (calling obliging) 1 9 (signup "waba-1" "phone-1" (by decide) (by decide)) none,
    .exchange (calling unsubscribable) 1 9 (signup "waba-1" "phone-2" (by decide) (by decide)) none,
    .disconnect (calling obliging) 1]

theorem platform_token_for_customer_number : ∃ business creds,
    Along NextConnect unconnectedShop (played unconnectedShop disconnectedAfterFailure) ∧
    (last unconnectedShop (played unconnectedShop disconnectedAfterFailure)).businesses.lookup 1 =
      some business ∧
    resolveWhatsappCredentials platform business (last unconnectedShop
      (played unconnectedShop disconnectedAfterFailure)).toConnectTables = some creds ∧
    ¬ Entitled platform (last unconnectedShop
      (played unconnectedShop disconnectedAfterFailure)) 1 creds := by
  refine ⟨{ id := 1, whatsappPhoneNumberId := some "phone-1" },
    ⟨"phone-1", "platform token", .platform, none⟩, along_played _ _, by decide +kernel,
    by decide +kernel, fun hentitled => ?_⟩
  have hclaimed : (1, "phone-1") ∈ (last unconnectedShop
      (played unconnectedShop disconnectedAfterFailure)).claimed := by decide +kernel
  exact hentitled.platform rfl hclaimed

end NextgenBackend.Whatsapp
