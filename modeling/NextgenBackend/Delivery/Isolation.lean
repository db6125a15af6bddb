import NextgenBackend.Delivery.SingleOrder
import NextgenBackend.Library.Noninterference

namespace NextgenBackend.Isolation

open Txn Interleaving Delivery SingleOrder

-- The id under which a request is logged, and which a later one finds taken.
def loggedEvent (webhook : DeliveryWebhook) : String × String :=
  (webhook.provider,
    if webhook.signatureValid = false then "unverified:" ++ webhook.generatedEventId
    else ((webhook.envelope.filter fun envelope => envelope.eventId ≠ "").map (·.eventId)).getD
      webhook.generatedEventId)

-- Not signed by the provider, or about a store that no tenant has connected.
def isForeign (t : Tables) (webhook : DeliveryWebhook) : Bool :=
  !webhook.signatureValid ||
    (webhook.envelope.filter fun envelope => envelope.eventId ≠ "").any fun envelope =>
      (resolveDeliveryConnection webhook.provider envelope.externalStoreId t).isNone

def genuine {ι : Type} (t : Tables) (webhooks : ι → DeliveryWebhook) (i : ι) : Bool :=
  !isForeign t (webhooks i)

def clock (now : Instant) (db : Database) : Database :=
  { db with now := now }

-- The requests in progress, each with what is left of its handling.
abbrev Intake (ι : Type) := Config ι Database RowKey CommitSite Failure WebhookGateResult

def intake {ι : Type} (settings : DeliverySettings) (db : Database)
    (webhooks : ι → DeliveryWebhook) : Intake ι :=
  start db fun i => ingestDeliveryWebhook settings (webhooks i)

def replyOf {ι : Type} (c : Intake ι) (i : ι) : Option (Except Failure WebhookGateResult) :=
  match c.prog i with
  | .done result => some (.ok result)
  | .fail e => some (.error e)
  | _ => none

-- The same database but for the log of events, which shows the same of some events and rows.
structure Alike (events : Set (String × String)) (ids : Set Uuid) (t t' : Tables) : Prop where
  others : ∃ rows, t' = { t with deliveryWebhookEvents := rows }
  events : ∀ event ∈ events, eventOf event.1 event.2 t' = eventOf event.1 event.2 t
  ids : ∀ id ∈ ids, (t'.deliveryWebhookEvents.lookup id).isSome =
    (t.deliveryWebhookEvents.lookup id).isSome

structure Matched (events : Set (String × String)) (ids : Set Uuid) (t t' : Tables) : Prop extends
    Alike events ids t t' where
  pkey : Constraint.Holds t' .deliveryWebhookEventsPkey ↔
    Constraint.Holds t .deliveryWebhookEventsPkey
  unique : Constraint.Holds t' .uqDeliveryWebhookEventsProviderEventId ↔
    Constraint.Holds t .uqDeliveryWebhookEventsProviderEventId

structure Shown (stores : Table DeliveryConnection) (events : Set (String × String))
    (ids : Set Uuid) (db db' : Database) : Prop where
  stores : db.deliveryConnections = stores
  tables : Alike events ids db.toTables db'.toTables
  jobs : db'.jobs = db.jobs

structure Kept (stores : Table DeliveryConnection) (events : Set (String × String))
    (ids : Set Uuid) (db db' : Database) : Prop extends Shown stores events ids db db' where
  now : db'.now = db.now

def shownKeys (events : Set (String × String)) : Set RowKey :=
  {key | ∀ provider eventId, key = .deliveryWebhookEvent provider eventId →
    (provider, eventId) ∈ events}

section Views

variable {stores : Table DeliveryConnection} {events : Set (String × String)} {ids : Set Uuid}
  {t t' t'' : Tables}
  {db db' db'' : Database} {f : Pending}

theorem Alike.refl (t : Tables) : Alike events ids t t where
  others := ⟨_, rfl⟩
  events _ _ := rfl
  ids _ _ := rfl

theorem Alike.trans (h : Alike events ids t t') (h' : Alike events ids t' t'') :
    Alike events ids t t'' where
  others := by
    obtain ⟨rows, rfl⟩ := h.others
    obtain ⟨rows', rfl⟩ := h'.others
    exact ⟨rows', rfl⟩
  events event hevent := (h'.events event hevent).trans (h.events event hevent)
  ids id hid := (h'.ids id hid).trans (h.ids id hid)

theorem Matched.holds (h : Matched events ids t t') (c : Constraint) : c.Holds t' ↔ c.Holds t := by
  obtain ⟨rows, hrows⟩ := h.others
  cases c with
  | deliveryWebhookEventsPkey => exact h.pkey
  | uqDeliveryWebhookEventsProviderEventId => exact h.unique
  | _ =>
      subst hrows
      rfl

theorem Matched.violation (h : Matched events ids t t') : t'.violation = t.violation := by
  unfold Tables.violation
  simp only [h.holds]

theorem Alike.matched (h : Alike events ids db.toTables db'.toTables) :
    Matched events ids db.toTables db'.toTables where
  toAlike := h
  pkey := iff_of_true (db'.valid _) (db.valid _)
  unique := iff_of_true (db'.valid _) (db.valid _)

-- What a request may stage without showing, in what it changes, the rest of the log.
structure Blind (events : Set (String × String)) (ids : Set Uuid) (f : Pending) : Prop where
  matched : ∀ t t', Matched events ids t t' → Matched events ids (f t) (f t')
  stores : ∀ t, (f t).deliveryConnections = t.deliveryConnections

theorem blind_neutral : Neutral (Blind events ids) where
  id := ⟨fun _ _ h => h, fun _ => rfl⟩
  comp f _ hf hg := ⟨fun t t' h => hg.matched (f t) (f t') (hf.matched t t' h),
    fun t => (hg.stores (f t)).trans (hf.stores t)⟩

theorem write_agree (hf : Blind events ids f) (h : Kept stores events ids db db') :
    Agree (Kept stores events ids) (db.write f) (db'.write f) := by
  have hmatched : Matched events ids (f db.toTables) (f db'.toTables) := hf.matched _ _ h.tables.matched
  cases hw : db.write f with
  | ok after =>
      have hvalid : ∀ c : Constraint, c.Holds (f db'.toTables) := by
        intro c
        have hafter := after.valid c
        rw [(Database.write_ok hw).1] at hafter
        exact (hmatched.holds c).mpr hafter
      rw [Database.write_of_valid hvalid]
      obtain ⟨htables, hnow⟩ := Database.write_ok hw
      refine ⟨⟨?_, htables ▸ hmatched.toAlike, h.jobs.trans (Database.write_jobs hw).symm⟩,
        h.now.trans hnow.symm⟩
      rw [htables, hf.stores, h.stores]
  | error e =>
      obtain ⟨c, rfl, hviolation⟩ := Database.write_error hw
      cases hw' : db'.write f with
      | ok after =>
          have hvalid := Tables.violation_eq_none.mpr after.valid
          rw [(Database.write_ok hw').1, hmatched.violation, hviolation] at hvalid
          cases hvalid
      | error e' =>
          obtain ⟨c', rfl, hviolation'⟩ := Database.write_error hw'
          rw [hmatched.violation, hviolation] at hviolation'
          obtain rfl := Option.some.inj hviolation'
          rfl

theorem eventOf_insert {event : DeliveryWebhookEvent} {provider eventId : String} :
    eventOf provider eventId (insertEvent event t) = (eventOf provider eventId t).or
      (if event.provider = provider ∧ event.eventId = eventId then some event else none) := by
  unfold eventOf insertEvent Table.insert
  rw [List.find?_append]
  by_cases h : event.provider = provider ∧ event.eventId = eventId <;> simp [h]

theorem eventOf_eq_none {provider eventId : String} : eventOf provider eventId t = none ↔
    ∀ event ∈ t.deliveryWebhookEvents, ¬ (event.provider = provider ∧ event.eventId = eventId) := by
  simp [eventOf]

theorem lookup_insert_isSome {event : DeliveryWebhookEvent} {id : Uuid} :
    ((insertEvent event t).deliveryWebhookEvents.lookup id).isSome =
      ((t.deliveryWebhookEvents.lookup id).isSome || decide (event.id = id)) := by
  have hinsert : (insertEvent event t).deliveryWebhookEvents.lookup id =
      (t.deliveryWebhookEvents.lookup id).or (if event.id = id then some event else none) :=
    Table.lookup_insert
  rw [hinsert]
  by_cases h : event.id = id <;> simp [h]

theorem blind_insertEvent {event : DeliveryWebhookEvent}
    (hevent : (event.provider, event.eventId) ∈ events) (hid : event.id ∈ ids) :
    Blind events ids (insertEvent event) := by
  refine ⟨fun t t' h => ?_, fun _ => rfl⟩
  obtain ⟨rows, hrows⟩ := h.others
  have hlogged : eventOf event.provider event.eventId t' = eventOf event.provider event.eventId t :=
    h.events _ hevent
  constructor
  · constructor
    · exact ⟨(insertEvent event t').deliveryWebhookEvents, by rw [hrows]; rfl⟩
    · intro logged hlogged
      rw [eventOf_insert, eventOf_insert, h.events logged hlogged]
    · intro id hid
      rw [lookup_insert_isSome, lookup_insert_isSome, h.ids id hid]
  · have hfree : t'.deliveryWebhookEvents.lookup event.id = none ↔
        t.deliveryWebhookEvents.lookup event.id = none := by
      rw [← Option.not_isSome_iff_eq_none, ← Option.not_isSome_iff_eq_none, h.ids event.id hid]
    exact (Table.primaryKey_insert.trans (and_congr h.pkey hfree)).trans
      Table.primaryKey_insert.symm
  · have hinsert (t : Tables) :
        Constraint.Holds (insertEvent event t) .uqDeliveryWebhookEventsProviderEventId ↔
          Constraint.Holds t .uqDeliveryWebhookEventsProviderEventId ∧
            eventOf event.provider event.eventId t = none := by
      have hunique := Table.unique_insert (t := t.deliveryWebhookEvents) (r := event)
        (c := fun event => some (event.provider, event.eventId)) rfl
      refine hunique.trans (and_congr Iff.rfl ?_)
      simp [eventOf_eq_none]
    rw [hinsert, hinsert, h.unique, hlogged]

theorem eventOf_setEvent {id : Uuid} {set : DeliveryWebhookEvent → DeliveryWebhookEvent}
    {provider eventId : String} (hset : ∀ event, (set event).id = event.id ∧
      (set event).provider = event.provider ∧ (set event).eventId = event.eventId) :
    eventOf provider eventId (setEvent id set t) =
      (eventOf provider eventId t).map fun event => if event.id = id then set event else event := by
  unfold eventOf setEvent Table.modify
  rw [List.find?_map]
  congr 2
  funext event
  by_cases hid : event.id = id
  · simp [Function.comp, Keyed.key, hid, (hset event).2.1, (hset event).2.2]
  · simp [Function.comp, Keyed.key, hid]

theorem blind_setEvent {id : Uuid} {set : DeliveryWebhookEvent → DeliveryWebhookEvent}
    (hset : ∀ event, (set event).id = event.id ∧ (set event).provider = event.provider ∧
      (set event).eventId = event.eventId) : Blind events ids (setEvent id set) := by
  refine ⟨fun t t' h => ?_, fun _ => rfl⟩
  obtain ⟨rows, hrows⟩ := h.others
  have hkey (event : DeliveryWebhookEvent) : key (set event) = key event := (hset event).1
  have hunique (t : Tables) :
      Constraint.Holds (setEvent id set t) .uqDeliveryWebhookEventsProviderEventId ↔
        Constraint.Holds t .uqDeliveryWebhookEventsProviderEventId := by
    simp only [Constraint.Holds, Table.Unique, setEvent]
    rw [Table.filterMap_modify]
    intro event
    rw [(hset event).2.1, (hset event).2.2]
  constructor
  · constructor
    · exact ⟨(setEvent id set t').deliveryWebhookEvents, by rw [hrows]; rfl⟩
    · intro logged hlogged
      rw [eventOf_setEvent hset, eventOf_setEvent hset, h.events logged hlogged]
    · intro id' hid'
      exact (Table.isSome_lookup_modify hkey).trans
        ((h.ids id' hid').trans (Table.isSome_lookup_modify hkey).symm)
  · exact (Table.primaryKey_modify hkey).trans (h.pkey.trans (Table.primaryKey_modify hkey).symm)
  · rw [hunique, hunique, h.unique]

theorem blind_insertDeliveryOrder {row : DeliveryOrder} :
    Blind events ids (insertDeliveryOrder row) := by
  refine ⟨fun t t' h => ?_, fun _ => rfl⟩
  obtain ⟨rows, rfl⟩ := h.others
  exact ⟨⟨⟨rows, rfl⟩, h.events, h.ids⟩, h.pkey, h.unique⟩

end Views

section Genuine

variable {stores : Table DeliveryConnection} {events : Set (String × String)} {ids : Set Uuid}
  {session : Session} {settings : DeliverySettings} {webhook : DeliveryWebhook}

abbrev Obscured (stores : Table DeliveryConnection) (events : Set (String × String))
    (ids : Set Uuid) {α : Type} (P : α → Prop) (x : Handler α) : Prop :=
  x.Oblivious (shownKeys events) (Kept stores events ids) P

structure Undetected (events : Set (String × String)) (ids : Set Uuid) (session : Session) :
    Prop where
  touched : session.touched = []
  pending : Blind events ids session.pending

theorem Undetected.start : Undetected events ids {} :=
  ⟨rfl, blind_neutral.id⟩

theorem Undetected.stage {f : Pending} (h : Undetected events ids session)
    (hf : Blind events ids f) : Undetected events ids (session.stage [] f) where
  touched := (List.append_nil session.touched).trans h.touched
  pending := blind_neutral.comp session.pending _ h.pending hf

theorem Undetected.keys (h : Undetected events ids session) :
    ∀ key ∈ session.touched, key ∈ shownKeys events := by
  rw [h.touched]
  exact fun _ hkey => absurd hkey List.not_mem_nil

theorem obscured_readNow : Obscured stores events ids (fun _ => True) readNow :=
  oblivious_read (fun _ _ h => h.now) fun _ => trivial

-- What does not ask for the log of events cannot tell the two databases apart.
theorem obscured_read {α : Type} {q : Database → α} {view : Tables → α}
    (hq : ∀ db : Database, q db = view db.toTables)
    (hview : ∀ t rows, view { t with deliveryWebhookEvents := rows } = view t) :
    Obscured stores events ids (fun _ => True) (.read q) := by
  refine oblivious_read (fun db db' h => ?_) fun _ => trivial
  obtain ⟨rows, hrows⟩ := h.tables.others
  rw [hq, hq, hrows, hview]

theorem obscured_commit {site : CommitSite} (h : Undetected events ids session) :
    Obscured stores events ids (fun _ => True) (commit site session) :=
  oblivious_save h.keys (fun _ _ hkept => write_agree h.pending hkept) trivial

theorem obscured_commitResult {order : Option DeliveryKey} {result : WebhookGateResult}
    (h : Undetected events ids session) :
    Obscured stores events ids (fun _ => True) (commitResult order session result) := by
  apply oblivious_seq
  · exact oblivious_tryCommit h.keys (fun _ _ hkept => write_agree h.pending hkept)
      fun _ => trivial
  · intro fault
    cases fault <;> trivial

theorem obscured_rollback : Obscured stores events ids (fun _ => True) rollback := by
  refine ⟨?_, fun _ _ _ => rfl, fun _ => trivial⟩
  exact fun _ hkey => absurd hkey List.not_mem_nil

theorem obscured_insertEvent {event : DeliveryWebhookEvent}
    (hevent : (event.provider, event.eventId) ∈ events) (hid : event.id ∈ ids) :
    Obscured stores events ids (fun result => Undetected events ids result.1)
      (insertEventIdempotent event {}) := by
  have hkey : RowKey.deliveryWebhookEvent event.provider event.eventId ∈ shownKeys events := by
    rintro provider eventId heq
    injection heq with hprovider heventId
    exact hprovider ▸ heventId ▸ hevent
  have hsame (db db' : Database) (h : Kept stores events ids db db') :
      eventOf event.provider event.eventId db'.toTables =
        eventOf event.provider event.eventId db.toTables :=
    h.tables.events _ hevent
  apply oblivious_seq
  · exact oblivious_read hsame fun _ => trivial
  · intro existing
    split
    · exact .start
    · apply oblivious_seq
      · exact oblivious_lock hkey hsame fun _ => trivial
      · intro existing
        split
        · exact .start
        · exact Undetected.start.stage (blind_insertEvent hevent hid)

theorem obscured_insertDeliveryOrder {row : DeliveryOrder}
    (h : Undetected events ids session) :
    Obscured stores events ids (fun session => Undetected events ids session)
      (insertDeliveryOrderIdempotent row session) := by
  have hkey : RowKey.newDeliveryOrder (deliveryKey row) ∈ shownKeys events := by
    rintro provider eventId heq
    cases heq
  have hsame (db db' : Database) (h : Kept stores events ids db db') :
      deliveryOrderOf (deliveryKey row) db'.toTables =
        deliveryOrderOf (deliveryKey row) db.toTables := by
    obtain ⟨rows, hrows⟩ := h.tables.others
    rw [hrows]
    rfl
  apply oblivious_seq
  · exact oblivious_read hsame fun _ => trivial
  · intro existing
    split
    · exact h
    · apply oblivious_seq
      · exact oblivious_lock hkey hsame fun _ => trivial
      · intro existing
        split
        · exact h
        · exact h.stage blind_insertDeliveryOrder

theorem obscured_enqueueOrder {connection : DeliveryConnection} {externalOrderId : String}
    {eventType : Option String} (h : Undetected events ids session) :
    Obscured stores events ids (fun _ => True)
      (enqueueOrder webhook connection externalOrderId eventType session) := by
  apply oblivious_seq
  · refine oblivious_read (fun db db' hkept => ?_) fun _ => trivial
    have hagree := write_agree h.pending hkept
    unfold isFlushed
    cases hw : db.write session.pending <;> cases hw' : db'.write session.pending <;>
      simp [hw, hw', Agree] at hagree ⊢
  · intro flushed
    split
    · exact oblivious_seq obscured_rollback fun _ => trivial
    · split
      · exact oblivious_seq obscured_rollback fun _ => trivial
      · apply oblivious_seq
        · refine oblivious_tell (fun db db' hkept => ?_) trivial
          exact ⟨⟨hkept.stores, hkept.tables, congrArg (· ++ _) hkept.jobs⟩, hkept.now⟩
        · exact fun _ => obscured_commitResult h

theorem obscured_ingestVerified {envelope : WebhookEnvelope}
    (hevent : (webhook.provider, envelope.eventId) ∈ events) (hid : webhook.eventRowId ∈ ids) :
    Obscured stores events ids (fun _ => True) (ingestVerified settings webhook envelope) := by
  apply oblivious_seq obscured_readNow
  intro now
  apply oblivious_bind
  · exact obscured_insertEvent hevent hid
  · rintro ⟨session, inserted⟩ hundetected
    have hset {set : DeliveryWebhookEvent → DeliveryWebhookEvent}
        (hset : ∀ event, (set event).id = event.id ∧ (set event).provider = event.provider ∧
          (set event).eventId = event.eventId) :
        Undetected events ids (session.stage [] (setEvent webhook.eventRowId set)) :=
      hundetected.stage (blind_setEvent hset)
    dsimp only
    split
    · exact oblivious_seq (obscured_commit hundetected) fun _ => trivial
    · apply oblivious_seq
      · exact obscured_read (fun _ => rfl) fun _ _ => rfl
      · intro connection
        cases connection with
        | none =>
            exact oblivious_seq (obscured_commit (hset fun _ => ⟨rfl, rfl, rfl⟩)) fun _ => trivial
        | some connection =>
            dsimp only
            split
            · exact obscured_commitResult (hset fun _ => ⟨rfl, rfl, rfl⟩)
            · apply oblivious_bind
              · exact obscured_insertDeliveryOrder (hset fun _ => ⟨rfl, rfl, rfl⟩)
              · intro session' hundetected'
                exact obscured_enqueueOrder hundetected'

theorem obscured_logRejected {eventId category : String} {envelope : Option WebhookEnvelope}
    (hevent : (webhook.provider, eventId) ∈ events) (hid : webhook.eventRowId ∈ ids) :
    Obscured stores events ids (fun _ => True) (logRejected webhook eventId envelope category) := by
  apply oblivious_seq obscured_readNow
  intro now
  apply oblivious_bind
  · exact obscured_insertEvent hevent hid
  · rintro ⟨session, inserted⟩ hundetected
    exact oblivious_seq (obscured_commit hundetected) fun _ => trivial

theorem obscured_ingest (hevent : loggedEvent webhook ∈ events) (hid : webhook.eventRowId ∈ ids) :
    Obscured stores events ids (fun _ => True) (ingestDeliveryWebhook settings webhook) := by
  unfold loggedEvent at hevent
  unfold ingestDeliveryWebhook
  split
  · trivial
  · split
    next hinvalid =>
      rw [if_pos hinvalid] at hevent
      exact obscured_logRejected hevent hid
    next hsigned =>
      rw [if_neg hsigned] at hevent
      cases henvelope : webhook.envelope.filter fun envelope => envelope.eventId ≠ "" with
      | none =>
          rw [henvelope] at hevent
          exact obscured_logRejected hevent hid
      | some envelope =>
          rw [henvelope] at hevent
          exact obscured_ingestVerified hevent hid

end Genuine

section Foreign

variable {stores : Table DeliveryConnection} {events : Set (String × String)} {ids : Set Uuid}
  {t : Tables} {db db' : Database} {session : Session} {settings : DeliverySettings}
  {webhook : DeliveryWebhook} {event : DeliveryWebhookEvent}

theorem alike_insertEvent (hevent : (event.provider, event.eventId) ∉ events)
    (hid : event.id ∉ ids) : Alike events ids t (insertEvent event t) where
  others := ⟨_, rfl⟩
  events logged hlogged := by
    have hne : ¬ (event.provider = logged.1 ∧ event.eventId = logged.2) := by
      rintro ⟨hprovider, heventId⟩
      rw [hprovider, heventId] at hevent
      exact hevent hlogged
    rw [eventOf_insert, if_neg hne, Option.or_none]
  ids id hmem := by
    have hne : event.id ≠ id := by
      rintro rfl
      exact hid hmem
    simp [lookup_insert_isSome, hne]

theorem alike_setEvent {id : Uuid} {set : DeliveryWebhookEvent → DeliveryWebhookEvent}
    (hset : ∀ event, (set event).id = event.id ∧ (set event).provider = event.provider ∧
      (set event).eventId = event.eventId)
    (hnone : ∀ logged ∈ events, ∀ event ∈ eventOf logged.1 logged.2 t, event.id ≠ id) :
    Alike events ids t (setEvent id set t) where
  others := ⟨_, rfl⟩
  events logged hlogged := by
    rw [eventOf_setEvent hset]
    cases hfound : eventOf logged.1 logged.2 t with
    | none => rfl
    | some found => simp [hnone logged hlogged found hfound]
  ids _ _ := Table.isSome_lookup_modify fun event => (hset event).1

abbrev Unseen (stores : Table DeliveryConnection) (events : Set (String × String))
    (ids : Set Uuid) {α : Type} (P : α → Prop) (x : Handler α) : Prop :=
  x.Invisible (shownKeys events) (Shown stores events ids) P

theorem Shown.connections (h : Shown stores events ids db db') :
    db'.deliveryConnections = stores := by
  obtain ⟨rows, hrows⟩ := h.tables.others
  rw [hrows]
  exact h.stores

theorem unseen_commit {site : CommitSite} (h : ∀ db db' : Database,
    db'.toTables = session.pending db.toTables → Alike events ids db.toTables db'.toTables) :
    Unseen stores events ids (fun _ => True) (commit site session) := by
  apply invisible_save
  · intro shown db db' hshown hwrite
    have htables : Alike events ids db.toTables db'.toTables := h db db' (Database.write_ok hwrite).1
    exact ⟨hshown.stores, hshown.tables.trans htables,
      (Database.write_jobs hwrite).trans hshown.jobs⟩
  · trivial

theorem unseen_insertEvent (hevent : (event.provider, event.eventId) ∉ events) :
    Unseen stores events ids
      (fun result => result = ({}, false) ∨
        result = (Session.stage {} [] (insertEvent event), true))
      (insertEventIdempotent event {}) := by
  have hkey : RowKey.deliveryWebhookEvent event.provider event.eventId ∉ shownKeys events :=
    fun hkey => hevent (hkey event.provider event.eventId rfl)
  apply invisible_seq
  · exact invisible_read fun _ _ _ => trivial
  · intro existing
    split
    · exact .inl rfl
    · apply invisible_seq
      · exact invisible_lock hkey fun _ _ _ => trivial
      · intro existing
        split
        · exact .inl rfl
        · exact .inr rfl

theorem unseen_commitLogged {site : CommitSite} {inserted : Bool}
    (hevent : (event.provider, event.eventId) ∉ events) (hid : event.id ∉ ids)
    (hresult : (session, inserted) = ({}, false) ∨
      (session, inserted) = (Session.stage {} [] (insertEvent event), true)) :
    Unseen stores events ids (fun _ => True) (commit site session) := by
  apply unseen_commit
  intro db db' htables
  rw [htables]
  rcases hresult with hresult | hresult
  · obtain ⟨rfl, rfl⟩ := Prod.mk.inj hresult
    exact .refl _
  · obtain ⟨rfl, rfl⟩ := Prod.mk.inj hresult
    exact alike_insertEvent hevent hid

theorem unseen_commitMarked {site : CommitSite}
    {set : DeliveryWebhookEvent → DeliveryWebhookEvent}
    (hset : ∀ event, (set event).id = event.id ∧ (set event).provider = event.provider ∧
      (set event).eventId = event.eventId)
    (hevent : (event.provider, event.eventId) ∉ events) (hid : event.id ∉ ids) :
    Unseen stores events ids (fun _ => True) (commit site
      ((Session.stage {} [] (insertEvent event)).stage [] (setEvent event.id set))) := by
  apply unseen_commit
  intro db db' htables
  have hinserted : Alike events ids db.toTables (insertEvent event db.toTables) :=
    alike_insertEvent hevent hid
  have htables' : db'.toTables = setEvent event.id set (insertEvent event db.toTables) := htables
  rw [htables']
  refine hinserted.trans (alike_setEvent hset fun logged hlogged found hfound => ?_)
  rw [hinserted.events logged hlogged] at hfound
  -- The row it marks is the one it inserts, so no event logged before has its id.
  have hpkey : Constraint.Holds db'.toTables .deliveryWebhookEventsPkey := db'.valid _
  rw [htables'] at hpkey
  have hfresh := (Table.primaryKey_insert.mp
    ((Table.primaryKey_modify fun event => (hset event).1).mp hpkey)).2
  exact Table.lookup_eq_none.mp hfresh found (List.mem_of_find?_eq_some hfound)

theorem unseen_readNow : Unseen stores events ids (fun _ => True) readNow :=
  invisible_read fun _ _ _ => trivial

theorem unseen_logRejected {eventId category : String} {envelope : Option WebhookEnvelope}
    (hevent : (webhook.provider, eventId) ∉ events) (hid : webhook.eventRowId ∉ ids) :
    Unseen stores events ids (fun _ => True) (logRejected webhook eventId envelope category) := by
  apply invisible_seq unseen_readNow
  intro now
  apply invisible_bind
  · exact unseen_insertEvent hevent
  · rintro ⟨session, inserted⟩ hresult
    exact invisible_seq (unseen_commitLogged hevent hid hresult) fun _ => trivial

theorem unseen_ingestVerified {envelope : WebhookEnvelope}
    (hevent : (webhook.provider, envelope.eventId) ∉ events) (hid : webhook.eventRowId ∉ ids)
    (hunknown : resolveDeliveryConnection webhook.provider envelope.externalStoreId t = none) :
    Unseen t.deliveryConnections events ids (fun _ => True)
      (ingestVerified settings webhook envelope) := by
  apply invisible_seq unseen_readNow
  intro now
  apply invisible_bind
  · exact unseen_insertEvent hevent
  · rintro ⟨session, inserted⟩ hresult
    dsimp only
    split
    · exact invisible_seq (unseen_commitLogged hevent hid hresult) fun _ => trivial
    next hinserted =>
      rcases hresult with hresult | hresult
      · exact absurd (Prod.mk.inj hresult).2 hinserted
      · obtain ⟨rfl, rfl⟩ := Prod.mk.inj hresult
        have hconnection : Unseen t.deliveryConnections events ids
            (fun connection => connection = none)
            (.read fun db => resolveDeliveryConnection webhook.provider envelope.externalStoreId
              db.toTables) := by
          apply invisible_read
          intro shown db hshown
          unfold resolveDeliveryConnection at hunknown ⊢
          rw [hshown.connections]
          exact hunknown
        apply invisible_bind hconnection
        rintro _ rfl
        apply invisible_seq
        · exact unseen_commitMarked (fun _ => ⟨rfl, rfl, rfl⟩) hevent hid
        · exact fun _ => trivial

theorem unseen_ingest (hforeign : isForeign t webhook = true)
    (hevent : loggedEvent webhook ∉ events) (hid : webhook.eventRowId ∉ ids) :
    Unseen t.deliveryConnections events ids (fun _ => True)
      (ingestDeliveryWebhook settings webhook) := by
  unfold loggedEvent at hevent
  unfold isForeign at hforeign
  unfold ingestDeliveryWebhook
  split
  · trivial
  · split
    next hinvalid =>
      rw [if_pos hinvalid] at hevent
      exact unseen_logRejected hevent hid
    next hsigned =>
      rw [if_neg hsigned] at hevent
      cases henvelope : webhook.envelope.filter fun envelope => envelope.eventId ≠ "" with
      | none =>
          rw [henvelope] at hevent
          exact unseen_logRejected hevent hid
      | some envelope =>
          rw [henvelope] at hevent hforeign
          apply unseen_ingestVerified hevent hid
          simpa [hsigned] using hforeign

end Foreign

section Runs

variable {ι : Type} {settings : DeliverySettings} {db₀ : Database} {t : Tables}
  {webhooks : ι → DeliveryWebhook}

-- The ids generated for the foreign requests are not those of the genuine ones.
structure FreshIds (t : Tables) (webhooks : ι → DeliveryWebhook) : Prop where
  rows : ∀ i j, genuine t webhooks i = true → genuine t webhooks j = false →
    (webhooks j).eventRowId ≠ (webhooks i).eventRowId
  events : ∀ i j, genuine t webhooks i = true → (webhooks j).signatureValid = false →
    loggedEvent (webhooks j) ≠ loggedEvent (webhooks i)

-- What the provider sends for stores that nobody has connected are other events.
def OtherEvents (t : Tables) (webhooks : ι → DeliveryWebhook) : Prop :=
  ∀ i j, genuine t webhooks i = true → genuine t webhooks j = false →
    (webhooks j).signatureValid = true → loggedEvent (webhooks j) ≠ loggedEvent (webhooks i)

def genuineSteps (t : Tables) (webhooks : ι → DeliveryWebhook) (steps : List (ι × Instant)) :
    List (ι × Instant) :=
  steps.filter fun step => genuine t webhooks step.1

structure SameIntake (t : Tables) (webhooks : ι → DeliveryWebhook) (c c' : Intake ι) : Prop where
  deliveryOrders : c'.db.deliveryOrders = c.db.deliveryOrders
  jobs : c'.db.jobs = c.db.jobs
  events : ∀ i, genuine t webhooks i = true →
    eventOf (loggedEvent (webhooks i)).1 (loggedEvent (webhooks i)).2 c'.db.toTables =
      eventOf (loggedEvent (webhooks i)).1 (loggedEvent (webhooks i)).2 c.db.toTables
  replies : ∀ i, genuine t webhooks i = true → replyOf c' i = replyOf c i

def genuineEvents (t : Tables) (webhooks : ι → DeliveryWebhook) : Set (String × String) :=
  {event | ∃ i, genuine t webhooks i = true ∧ loggedEvent (webhooks i) = event}

def genuineIds (t : Tables) (webhooks : ι → DeliveryWebhook) : Set Uuid :=
  {id | ∃ i, genuine t webhooks i = true ∧ (webhooks i).eventRowId = id}

abbrev Separated (t : Tables) (webhooks : ι → DeliveryWebhook) : Intake ι → Intake ι → Prop :=
  Hides {i | genuine t webhooks i = true} (shownKeys (genuineEvents t webhooks))
    (Kept t.deliveryConnections (genuineEvents t webhooks) (genuineIds t webhooks))
    (Shown t.deliveryConnections (genuineEvents t webhooks) (genuineIds t webhooks))

theorem separated_intake (hfresh : FreshIds db₀.toTables webhooks)
    (hother : OtherEvents db₀.toTables webhooks) :
    Separated db₀.toTables webhooks (intake settings db₀ webhooks)
      (intake settings db₀ webhooks) := by
  apply hides_start
  · intro i hi
    exact obscured_ingest ⟨i, hi, rfl⟩ ⟨i, hi, rfl⟩
  · intro j hj
    have hforeign : genuine db₀.toTables webhooks j = false := Bool.eq_false_iff.mpr hj
    apply unseen_ingest
    · simpa [genuine] using hforeign
    · rintro ⟨i, hi, hevent⟩
      cases hsigned : (webhooks j).signatureValid with
      | false => exact hfresh.events i j hi hsigned hevent.symm
      | true => exact hother i j hi hforeign hsigned hevent.symm
    · rintro ⟨i, hi, hid⟩
      exact hfresh.rows i j hi hforeign hid.symm

theorem clock_kept {stores : Table DeliveryConnection} {events : Set (String × String)}
    {ids : Set Uuid} (now : Instant) (db db' : Database) (h : Shown stores events ids db db') :
    Kept stores events ids (clock now db) (clock now db') :=
  ⟨⟨h.stores, h.tables, h.jobs⟩, rfl⟩

theorem clock_shown {stores : Table DeliveryConnection} {events : Set (String × String)}
    {ids : Set Uuid} (now : Instant) (db db' : Database) (h : Shown stores events ids db db') :
    Shown stores events ids db (clock now db') :=
  ⟨h.stores, h.tables, h.jobs⟩

theorem SameIntake.of_common {c c' d : Intake ι} (h : SameIntake t webhooks d c)
    (h' : SameIntake t webhooks d c') : SameIntake t webhooks c c' where
  deliveryOrders := h'.deliveryOrders.trans h.deliveryOrders.symm
  jobs := h'.jobs.trans h.jobs.symm
  events i hi := (h'.events i hi).trans (h.events i hi).symm
  replies i hi := (h'.replies i hi).trans (h.replies i hi).symm

variable [DecidableEq ι] {steps steps' : List (ι × Instant)} {c c' : Intake ι}

theorem intake_hides (hfresh : FreshIds db₀.toTables webhooks)
    (hother : OtherEvents db₀.toTables webhooks)
    (hrun : c ∈ (intake settings db₀ webhooks).scheduleAt clock steps) :
    ∃ d ∈ (intake settings db₀ webhooks).scheduleAt clock
        (genuineSteps db₀.toTables webhooks steps), SameIntake db₀.toTables webhooks d c := by
  have hstart : Shown db₀.deliveryConnections (genuineEvents db₀.toTables webhooks)
      (genuineIds db₀.toTables webhooks) db₀ db₀ := ⟨rfl, .refl _, rfl⟩
  obtain ⟨d, hd, hhides, hshown⟩ := Hides.scheduleAt (separated_intake hfresh hother) hstart
    clock_kept (fun _ _ h => h.toShown) clock_shown hrun
  refine ⟨d, hd, ?_⟩
  constructor
  · obtain ⟨rows, hrows⟩ := hshown.tables.others
    rw [hrows]
  · exact hshown.jobs
  · intro i hi
    exact hshown.tables.events _ ⟨i, hi, rfl⟩
  · intro i hi
    unfold replyOf
    rw [hhides.prog i hi]

-- A request that a run takes no step of has not arrived in it.
theorem foreign_requests_isolated (hfresh : FreshIds db₀.toTables webhooks)
    (hother : OtherEvents db₀.toTables webhooks)
    (hsame : genuineSteps db₀.toTables webhooks steps' = genuineSteps db₀.toTables webhooks steps)
    (hrun : c ∈ (intake settings db₀ webhooks).scheduleAt clock steps)
    (hrun' : c' ∈ (intake settings db₀ webhooks).scheduleAt clock steps') :
    SameIntake db₀.toTables webhooks c c' := by
  obtain ⟨d, hd, hc⟩ := intake_hides hfresh hother hrun
  obtain ⟨d', hd', hc'⟩ := intake_hides hfresh hother hrun'
  rw [hsame] at hd'
  obtain rfl := Option.some.inj (hd.symm.trans hd')
  exact hc.of_common hc'

end Runs

def unknownStore (eventId : String) (orderRowId : Uuid) : DeliveryWebhook :=
  { notification eventId orderRowId with
    envelope := some ⟨eventId, some "orders.notification", some "store-9", some "E-9"⟩ }

-- A forged request names the event of the genuine one, which one about another store overlaps.
def forgedFirst : Fin 3 → DeliveryWebhook
  | 0 => { notification "event-1" 20 with signatureValid := false }
  | 1 => notification "event-1" 10
  | 2 => unknownStore "event-9" 30

def genuineAlone : List (Fin 3 × Instant) :=
  List.replicate 4 (1, 100) ++ List.replicate 6 (1, 101)

def genuineAmongForeign : List (Fin 3 × Instant) :=
  List.replicate 5 (0, 90) ++ List.replicate 4 (1, 100) ++ List.replicate 6 (2, 105) ++
    List.replicate 6 (1, 101)

theorem forged_first_isolated :
    ∃ c ∈ (intake settings kitchen forgedFirst).scheduleAt clock genuineAlone,
      ∃ c' ∈ (intake settings kitchen forgedFirst).scheduleAt clock genuineAmongForeign,
        c.db.deliveryOrders.length = 1 ∧ c.db.deliveryWebhookEvents.length = 1 ∧
          c'.db.deliveryWebhookEvents.length = 3 ∧
            SameIntake kitchen.toTables forgedFirst c c' := by
  have hrun : ∃ c ∈ (intake settings kitchen forgedFirst).scheduleAt clock genuineAlone,
      ∃ c' ∈ (intake settings kitchen forgedFirst).scheduleAt clock genuineAmongForeign,
        c.db.deliveryOrders.length = 1 ∧ c.db.deliveryWebhookEvents.length = 1 ∧
          c'.db.deliveryWebhookEvents.length = 3 := by
    decide +kernel
  have hfresh : FreshIds kitchen.toTables forgedFirst := by
    constructor <;> decide +kernel
  have hother : OtherEvents kitchen.toTables forgedFirst := by
    unfold OtherEvents
    decide +kernel
  have hsame : genuineSteps kitchen.toTables forgedFirst genuineAmongForeign =
      genuineSteps kitchen.toTables forgedFirst genuineAlone := by
    decide +kernel
  obtain ⟨c, hc, c', hc', horders, hevents, hevents'⟩ := hrun
  exact ⟨c, hc, c', hc', horders, hevents, hevents',
    foreign_requests_isolated hfresh hother hsame hc hc'⟩

-- A signed request about an unknown store is logged under the id of a genuine one still to come.
def unknownStoreFirst : Fin 2 → DeliveryWebhook
  | 0 => unknownStore "event-1" 20
  | 1 => notification "event-1" 10

theorem unknown_store_suppresses :
    ¬ ∀ (ι : Type) [DecidableEq ι] (settings : DeliverySettings) (db₀ : Database)
      (webhooks : ι → DeliveryWebhook) (steps steps' : List (ι × Instant)) (c c' : Intake ι),
      FreshIds db₀.toTables webhooks →
        genuineSteps db₀.toTables webhooks steps' = genuineSteps db₀.toTables webhooks steps →
          c ∈ (intake settings db₀ webhooks).scheduleAt clock steps →
            c' ∈ (intake settings db₀ webhooks).scheduleAt clock steps' →
              SameIntake db₀.toTables webhooks c c' := by
  intro h
  let genuineSteps₁ : List (Fin 2 × Instant) := List.replicate 10 (1, 100)
  have hrun : ∃ c ∈ (intake settings kitchen unknownStoreFirst).scheduleAt clock genuineSteps₁,
      ∃ c' ∈ (intake settings kitchen unknownStoreFirst).scheduleAt clock
        (List.replicate 6 (0, 90) ++ genuineSteps₁),
        c.db.deliveryOrders.length = 1 ∧ c'.db.deliveryOrders.length = 0 := by
    decide +kernel
  have hfresh : FreshIds kitchen.toTables unknownStoreFirst := by
    constructor <;> decide +kernel
  have hsame : genuineSteps kitchen.toTables unknownStoreFirst
      (List.replicate 6 (0, 90) ++ genuineSteps₁) =
        genuineSteps kitchen.toTables unknownStoreFirst genuineSteps₁ := by
    decide +kernel
  obtain ⟨c, hc, c', hc', horders, horders'⟩ := hrun
  have hintake := h (Fin 2) settings kitchen unknownStoreFirst _ _ c c' hfresh hsame hc hc'
  rw [hintake.deliveryOrders, horders] at horders'
  cases horders'

end NextgenBackend.Isolation
