import NextgenBackend.Delivery.Commits

namespace NextgenBackend.Delivery

open Txn RelyGuarantee Interleaving Inventory

-- What a session adds to the order it has inserted.
structure Posts (orderId : Uuid) (f : Pending) : Prop where
  orders : ∀ t, (f t).orders = t.orders
  deliveryOrders : ∀ t, (f t).deliveryOrders = t.deliveryOrders
  stockMovements : ∀ t, ∃ movements, (f t).stockMovements = t.stockMovements ++ movements ∧
    ∀ m ∈ movements, m.sourceId = some orderId ∧
      m.idempotencyKey = some (.sale orderId m.ingredientId)

theorem posts_neutral (orderId : Uuid) : Neutral (Posts orderId) where
  id := ⟨fun _ => rfl, fun _ => rfl, fun _ => ⟨[], (List.append_nil _).symm, by simp⟩⟩
  comp f g hf hg := by
    refine ⟨fun t => (hg.orders (f t)).trans (hf.orders t),
      fun t => (hg.deliveryOrders (f t)).trans (hf.deliveryOrders t), fun t => ?_⟩
    obtain ⟨movements, hmovements, hall⟩ := hf.stockMovements t
    obtain ⟨movements', hmovements', hall'⟩ := hg.stockMovements (f t)
    refine ⟨movements ++ movements', ?_, ?_⟩
    · rw [Function.comp_apply, hmovements', hmovements, List.append_assoc]
    · intro m hm
      rcases List.mem_append.mp hm with hm | hm
      · exact hall m hm
      · exact hall' m hm

theorem posts_sales {businessId orderId : Uuid} {userId : Option Uuid} {occurredAt : Instant}
    (lines : List IngredientConsumption) (ingredients : Table Ingredient) :
    Posts orderId
      (appendMovements (saleMovements businessId orderId userId occurredAt lines ingredients)) where
  orders _ := rfl
  deliveryOrders _ := rfl
  stockMovements t := by
    refine ⟨_, rfl, fun m hm => ?_⟩
    obtain ⟨line, -, rfl⟩ := List.mem_map.mp hm
    exact ⟨rfl, rfl⟩

theorem posts_rows {orderId : Uuid} (items : List OrderItem) (event : OrderEvent)
    (allocations : List POSPaymentAllocation) :
    Posts orderId (RoutesPos.insertOrderRows items event allocations) where
  orders _ := rfl
  deliveryOrders _ := rfl
  stockMovements _ := ⟨[], (List.append_nil _).symm, by simp⟩

structure Opens (orderId : Uuid) (f : Pending) : Prop where
  orders : ∃ order : Order, order.id = orderId ∧ ∀ t, (f t).orders = t.orders.insert order
  deliveryOrders : ∀ t, (f t).deliveryOrders = t.deliveryOrders
  stockMovements : ∀ t, ∃ movements, (f t).stockMovements = t.stockMovements ++ movements ∧
    ∀ m ∈ movements, m.sourceId = some orderId ∧
      m.idempotencyKey = some (.sale orderId m.ingredientId)

theorem Posts.opens {orderId : Uuid} {f : Pending} {order : Order} (h : Posts orderId f)
    (hid : order.id = orderId) : Opens orderId (f ∘ RoutesPos.insertOrder order) where
  orders := ⟨order, hid, fun t => h.orders (RoutesPos.insertOrder order t)⟩
  deliveryOrders t := h.deliveryOrders (RoutesPos.insertOrder order t)
  stockMovements t := h.stockMovements (RoutesPos.insertOrder order t)

theorem Opens.books {orderId : Uuid} {f : Pending} {db db' : Database} (h : Opens orderId f)
    (horders : db'.orders = (f db.toTables).orders)
    (hmovements : db'.stockMovements = (f db.toTables).stockMovements)
    (hjobs : db'.jobs = db.jobs) : Books orderId db db' := by
  obtain ⟨order, hid, hinsert⟩ := h.orders
  obtain ⟨movements, happend, hall⟩ := h.stockMovements db.toTables
  exact ⟨⟨order, hid, horders.trans (hinsert db.toTables)⟩,
    ⟨movements, hmovements.trans happend, hall⟩, hjobs⟩

section Jobs

variable {L : Set RowKey} {db : Database} {row : DeliveryOrder} {execution : Execution}
  {set : DeliveryOrder → DeliveryOrder} {forceAccept : Bool}

theorem createOrderFromCanonical_opens {id : Uuid} {business : Business} {provider : String}
    {canonical : CanonicalDeliveryOrder} {lines : List ResolvedDeliveryLine} :
    (createOrderFromCanonical id business provider canonical lines {}).ReadOnly fun session =>
      Opens id session.pending := by
  refine readOnly_seq readOnly_readNow fun now => readOnly_seq readOnly_flush fun _ => ?_
  refine Conforms.mono (readOnly_stageWhen (posts_neutral id) ?_) (fun _ _ _ h => h) ?_
  · exact postSaleConsumption_sells (posts_neutral id) posts_sales
  · intro session hstaged
    obtain ⟨f, hf, hpending⟩ :=
      (posts_neutral id).trans (Session.extends_stage (posts_rows _ _ _)) hstaged
    rw [hpending]
    exact hf.opens rfl

theorem issueDeny_denies {adapter : DeliveryProviderAdapter} {connection : Option DeliveryConnection}
    {reasonCode explanation : String} :
    (issueDeny adapter row connection reasonCode explanation).ReadOnly fun deny =>
      ∃ now, deny = denied now reasonCode explanation := by
  unfold issueDeny
  split
  · trivial
  · exact fun db => ⟨db.now, rfl⟩

theorem saveRow_follows {status : DeliveryOrderStatus} (hlock : Locked L row db)
    (hset : KeepsKey set) (hp : Processes status none row (set row)) :
    Follows L db (saveRow row forceAccept status set) := by
  apply follows_save hlock hset (fun _ => rfl) hp
  intro db' db'' hrewrites htables hjobs
  exact ⟨hrewrites, apart_of_pending htables hjobs rfl rfl⟩

theorem follows_book {orderId : Uuid} {status : DeliveryOrderStatus} {session : Session}
    (hlock : Locked L row db) (hset : KeepsKey set) (hopens : Opens orderId session.pending)
    (hp : Processes status (some orderId) row (set row)) :
    Follows L db (commit (.processDeliveryOrder row.id forceAccept status (some orderId))
      (session.stage [.deliveryOrder row.id] (setDeliveryOrder row.id set))) := by
  refine follows_save hlock hset (fun t => ?_) hp fun db' db'' hrewrites htables hjobs => ?_
  · exact congrArg (fun rows => rows.modify row.id set) (hopens.deliveryOrders t)
  · have horders : db''.orders = (session.pending db'.toTables).orders := by
      rw [htables]
      rfl
    have hmovements : db''.stockMovements = (session.pending db'.toTables).stockMovements := by
      rw [htables]
      rfl
    exact ⟨hrewrites, hopens.books horders hmovements hjobs⟩

theorem acceptIntoKitchen_follows {business : Business} {context : DeliveryOrderContext}
    {canonical : CanonicalDeliveryOrder} {lines : List ResolvedDeliveryLine}
    (hlock : Locked L row db) (hreceived : row.status = .received) :
    Follows L db
      (acceptIntoKitchen execution row business context canonical lines forceAccept) := by
  unfold acceptIntoKitchen
  apply follows_seq createOrderFromCanonical_opens
  intro session L1 db1 hopens hsub hrely
  apply follows_seq readOnly_flush
  intro _ L2 db2 _ hsub' hrely'
  have hlock2 : Locked L2 row db2 := (hlock.next hsub hrely).next hsub' hrely'
  split
  · trivial
  · apply follows_seq readOnly_readNow
    intro now L3 db3 _ hsub'' hrely''
    refine follows_book (hlock2.next hsub'' hrely'') ?_ hopens ?_
    · exact ⟨fun _ => rfl, fun _ => rfl⟩
    · exact ⟨hreceived, rfl, rfl, by simp [bookedStatuses], nofun, nofun⟩
  · refine follows_book hlock2 ?_ hopens ?_
    · exact ⟨fun _ => rfl, fun _ => rfl⟩
    · exact ⟨hreceived, rfl, rfl, by simp [bookedStatuses], nofun, nofun⟩

theorem resolveFetched_follows {connection : DeliveryConnection} {business : Business}
    {context : DeliveryOrderContext} {canonical : CanonicalDeliveryOrder}
    (hlock : Locked L row db) (hreceived : row.status = .received) :
    Follows L db
      (resolveFetched execution row connection business context canonical forceAccept) := by
  unfold resolveFetched
  split
  · apply follows_seq issueDeny_denies
    rintro _ L1 db1 ⟨now, rfl⟩ hsub hrely
    apply saveRow_follows (hlock.next hsub hrely)
    · exact ⟨fun _ => rfl, fun _ => rfl⟩
    · exact ⟨hreceived, rfl, rfl, by decide, nofun, nofun⟩
  · apply follows_seq readOnly_read
    intro lines L1 db1 _ hsub hrely
    have hlock1 : Locked L1 row db1 := hlock.next hsub hrely
    split
    · apply saveRow_follows hlock1
      · exact ⟨fun _ => rfl, fun _ => rfl⟩
      · exact ⟨hreceived, rfl, rfl, by decide, fun _ => rfl, nofun⟩
    · split
      · apply saveRow_follows hlock1
        · exact ⟨fun _ => rfl, fun _ => rfl⟩
        · exact ⟨hreceived, rfl, rfl, by decide, fun _ => rfl, nofun⟩
      · exact acceptIntoKitchen_follows hlock1 hreceived

theorem handleReceived_follows (hlock : Locked L row db) (hreceived : row.status = .received) :
    Follows L db (handleReceived execution row forceAccept) := by
  unfold handleReceived
  apply follows_seq readOnly_read
  intro connection L1 db1 _ hsub1 hrely1
  apply follows_seq readOnly_read
  intro business L2 db2 _ hsub2 hrely2
  apply follows_seq readOnly_read
  intro webhookEvent L3 db3 _ hsub3 hrely3
  have hlock3 : Locked L3 row db3 :=
    ((hlock.next hsub1 hrely1).next hsub2 hrely2).next hsub3 hrely3
  split
  · apply follows_seq issueDeny_denies
    rintro _ L4 db4 ⟨now, rfl⟩ hsub4 hrely4
    apply saveRow_follows (hlock3.next hsub4 hrely4)
    · exact ⟨fun _ => rfl, fun _ => rfl⟩
    · exact ⟨hreceived, rfl, rfl, by decide, nofun, nofun⟩
  · apply follows_seq readOnly_flush
    intro _ L4 db4 _ hsub4 hrely4
    have hlock4 : Locked L4 row db4 := hlock3.next hsub4 hrely4
    split
    · trivial
    · apply follows_bind
      · apply saveRow_follows hlock4
        · exact ⟨fun _ => rfl, fun _ => rfl⟩
        · exact ⟨hreceived, rfl, rfl, by decide, nofun, fun _ => rfl⟩
      · intro _ L5 db5
        trivial
    · apply follows_seq issueDeny_denies
      rintro _ L5 db5 ⟨now, rfl⟩ hsub5 hrely5
      apply saveRow_follows (hlock4.next hsub5 hrely5)
      · exact ⟨fun _ => rfl, fun _ => rfl⟩
      · exact ⟨hreceived, rfl, rfl, by decide, nofun, nofun⟩
    · exact resolveFetched_follows hlock4 hreceived

theorem stageCancellation_cancels {order : DeliveryKey} {o : Option Order} {session : Session}
    {t : Tables} (horders : ∀ t, (session.pending t).orders = t.orders) {id : Uuid} {o' : Order}
    (hlookup : t.orders.lookup id = some o') (hcancelled : o'.status = .cancelled) :
    ∃ o', ((stageCancellation order o session).pending t).orders.lookup id = some o' ∧
      o'.status = .cancelled := by
  unfold stageCancellation
  split
  · exact ⟨o', (congrArg (fun orders => orders.lookup id) (horders t)).trans hlookup, hcancelled⟩
  next o _ =>
    have hmodify : ((session.pending t).orders.modify o.id (cancelOrder order)).lookup id =
        if id = o.id then (t.orders.lookup o.id).map (cancelOrder order) else t.orders.lookup id := by
      rw [horders]
      exact Table.lookup_modify fun _ => rfl
    by_cases hid : id = o.id
    · subst hid
      rw [if_pos rfl, hlookup] at hmodify
      exact ⟨_, hmodify, rfl⟩
    · rw [if_neg hid] at hmodify
      exact ⟨o', hmodify.trans hlookup, hcancelled⟩

theorem stageCancellation_frame {order : DeliveryKey} {o : Option Order} {session : Session}
    (t : Tables) :
    ((stageCancellation order o session).pending t).deliveryOrders =
        (session.pending t).deliveryOrders ∧
      ((stageCancellation order o session).pending t).stockMovements =
        (session.pending t).stockMovements := by
  unfold stageCancellation
  split <;> exact ⟨rfl, rfl⟩

theorem handleCancellation_follows {order : DeliveryKey} :
    Follows L db (handleCancellation order) := by
  apply loadLockedRow_traces
  · intro _ _
    trivial
  · intro row L1 db1 hlock hkey
    change Follows L1 db1 (if row.status ∈ [.cancelled, .denied, .failed] then pure () else _)
    split
    · trivial
    next hopen =>
      apply follows_seq readOnly_readNow
      intro now L2 db2 _ hsub2 hrely2
      apply follows_seq readOnly_read
      intro o L3 db3 _ hsub3 hrely3
      have hlock3 : Locked L3 row db3 := (hlock.next hsub2 hrely2).next hsub3 hrely3
      have hset : KeepsKey fun row => { row with status := .cancelled, cancelledAt := some now } :=
        ⟨fun _ => rfl, fun _ => rfl⟩
      have hwithdraws : Withdraws row { row with status := .cancelled, cancelledAt := some now } :=
        ⟨hopen, rfl, rfl⟩
      refine follows_save hlock3 hset ?_ hwithdraws ?_
      · exact fun t => (stageCancellation_frame t).1
      · intro db' db'' hrewrites htables hjobs
        refine ⟨hrewrites, fun id o' hlookup hcancelled => ?_, ?_, hjobs⟩
        · rw [htables]
          exact stageCancellation_cancels (fun _ => rfl) hlookup hcancelled
        · rw [htables]
          exact (stageCancellation_frame _).2

theorem handleOrder_follows {order : DeliveryKey} {eventType : Option String} :
    Follows L db (handleOrder execution order eventType forceAccept) := by
  unfold handleOrder
  split
  · exact handleCancellation_follows
  · apply loadLockedRow_traces
    · intro _ _
      trivial
    · intro row L1 db1 hlock _
      change Follows L1 db1 (if row.status ≠ .received then pure () else _)
      split
      · trivial
      next hreceived => exact handleReceived_follows hlock (not_not.mp hreceived)

theorem runJob_follows (job : DeliveryJob) : Follows L db (runJob execution job) := by
  cases job with
  | processDeliveryOrder provider businessId externalOrderId eventType forceAccept =>
      apply follows_bind (follows_attempt handleOrder_follows)
      intro result L' db'
      cases result with
      | ok _ => trivial
      | error fault => exact follows_bind follows_rollback fun _ _ _ => trivial
  | processDeliveryCancellation provider businessId externalOrderId =>
      apply follows_bind (follows_attempt handleCancellation_follows)
      intro result L' db'
      cases result with
      | ok _ => trivial
      | error fault => exact follows_bind follows_rollback fun _ _ _ => trivial

theorem work_follows {jobId : Uuid} {retries : Bool} :
    Follows L db (work execution jobId retries) := by
  apply follows_seq readOnly_read
  intro queued L1 db1 _ _ _
  cases queued with
  | none => trivial
  | some queued =>
      apply follows_bind (runJob_follows queued.job)
      intro raised L2 db2
      split
      · trivial
      · exact follows_tell (fun _ => rfl) fun _ _ => rfl

end Jobs

-- What an intake may stage: its events, and the order that it has seen for the first time.
structure Registers (order : Option DeliveryKey) (f : Pending) : Prop where
  deliveryOrders : ∃ rows, (∀ row ∈ rows, isNew order row) ∧
    ∀ t, (f t).deliveryOrders = t.deliveryOrders ++ rows
  orders : ∀ t, (f t).orders = t.orders
  stockMovements : ∀ t, (f t).stockMovements = t.stockMovements

theorem registers_neutral (order : Option DeliveryKey) : Neutral (Registers order) where
  id := ⟨⟨[], by simp, fun _ => (List.append_nil _).symm⟩, fun _ => rfl, fun _ => rfl⟩
  comp f g hf hg := by
    obtain ⟨rows, hnew, hrows⟩ := hf.deliveryOrders
    obtain ⟨rows', hnew', hrows'⟩ := hg.deliveryOrders
    refine ⟨⟨rows ++ rows', ?_, fun t => ?_⟩, fun t => (hg.orders (f t)).trans (hf.orders t),
      fun t => (hg.stockMovements (f t)).trans (hf.stockMovements t)⟩
    · intro row hrow
      rcases List.mem_append.mp hrow with hrow | hrow
      · exact hnew row hrow
      · exact hnew' row hrow
    · rw [Function.comp_apply, hrows', hrows, List.append_assoc]

theorem registers_event {order : Option DeliveryKey} {f : Pending}
    (hdelivery : ∀ t, (f t).deliveryOrders = t.deliveryOrders) (horders : ∀ t, (f t).orders = t.orders)
    (hmovements : ∀ t, (f t).stockMovements = t.stockMovements) : Registers order f :=
  ⟨⟨[], by simp, fun t => (hdelivery t).trans (List.append_nil _).symm⟩, horders, hmovements⟩

section Intake

variable {L : Set RowKey} {db db' : Database} {session : Session} {order : Option DeliveryKey}
  {settings : DeliverySettings} {webhook : DeliveryWebhook} {f : Pending}

theorem Registers.receives (h : Registers order f)
    (hrows : db'.deliveryOrders = (f db.toTables).deliveryOrders) : Receives order db db' := by
  obtain ⟨rows, hnew, happend⟩ := h.deliveryOrders
  have hlookup (id : Uuid) : rowOf id db' = (rowOf id db).or (Table.lookup rows id) := by
    unfold rowOf
    rw [hrows, happend]
    exact List.find?_append
  constructor
  · intro id row hrow
    rw [hlookup, hrow]
    rfl
  · intro id row hrow
    rw [hlookup] at hrow
    cases hold : rowOf id db with
    | none =>
        rw [hold] at hrow
        exact .inr (hnew row (Table.lookup_mem hrow))
    | some old =>
        rw [hold] at hrow
        exact .inl hrow

theorem Receives.guar (h : Receives order db db') : discipline.guar L db db' :=
  ⟨fun id row hrow => ⟨row, h.kept id row hrow, rfl⟩, fun id row _ hrow => h.kept id row hrow⟩

theorem ingest_effect (h : Registers order session.pending)
    (hwrite : db.write session.pending = .ok db') :
    discipline.guar L db db' ∧ Effect (.ingestWebhook order) db db' := by
  obtain ⟨htables, -⟩ := Database.write_ok hwrite
  have hreceives : Receives order db db' := h.receives (congrArg Tables.deliveryOrders htables)
  exact ⟨hreceives.guar, hreceives, apart_of_pending htables (Database.write_jobs hwrite)
    (h.orders _) (h.stockMovements _)⟩

theorem commitResult_follows {result : WebhookGateResult} (h : Registers order session.pending) :
    Follows L db (commitResult order session result) := by
  apply traces_bind.mpr
  refine traces_tryCommit.mpr fun db' _ _ _ => ⟨fun db'' hwrite => ?_, fun _ _ => trivial⟩
  exact ⟨ingest_effect h hwrite, trivial⟩

theorem commitIngest_follows (h : Registers order session.pending) :
    Follows L db (commit (.ingestWebhook order) session) := by
  refine traces_save.mpr fun db' _ _ _ => ⟨fun db'' hwrite => ?_, fun _ _ => trivial⟩
  exact ⟨ingest_effect h hwrite, trivial⟩

theorem insertEventIdempotent_registers {event : DeliveryWebhookEvent} :
    (insertEventIdempotent event {}).ReadOnly fun result =>
      ∀ order, Registers order result.1.pending := by
  apply readOnly_seq readOnly_read
  intro existing
  split
  · exact fun order => (registers_neutral order).id
  · apply readOnly_seq readOnly_lock
    intro existing
    split
    · exact fun order => (registers_neutral order).id
    · exact fun order => registers_event (fun _ => rfl) (fun _ => rfl) fun _ => rfl

theorem insertDeliveryOrderIdempotent_registers {row : DeliveryOrder}
    (h : Registers (some (deliveryKey row)) session.pending)
    (hnew : isNew (some (deliveryKey row)) row) :
    (insertDeliveryOrderIdempotent row session).ReadOnly fun session =>
      Registers (some (deliveryKey row)) session.pending := by
  apply readOnly_seq readOnly_read
  intro existing
  split
  · exact h
  · apply readOnly_seq readOnly_lock
    intro existing
    split
    · exact h
    · have hinsert : Registers (some (deliveryKey row)) (insertDeliveryOrder row) :=
        ⟨⟨[row], by simpa using hnew, fun _ => rfl⟩, fun _ => rfl, fun _ => rfl⟩
      exact (registers_neutral _).comp session.pending (insertDeliveryOrder row) h hinsert

theorem jobKey_jobOf {provider externalOrderId : String} {businessId : Uuid}
    {eventType : Option String} : jobKey (jobOf provider businessId externalOrderId eventType) =
      ⟨businessId, provider, externalOrderId⟩ := by
  unfold jobOf
  split <;> rfl

theorem enqueueOrder_follows {connection : DeliveryConnection} {externalOrderId : String}
    {eventType : Option String}
    (h : Registers (some ⟨connection.businessId, webhook.provider, externalOrderId⟩)
      session.pending) :
    Follows L db (enqueueOrder webhook connection externalOrderId eventType session) := by
  unfold enqueueOrder
  apply follows_seq readOnly_read
  intro flushed L1 db1 _ _ _
  split
  · exact follows_bind follows_rollback fun _ _ _ => trivial
  · split
    · exact follows_bind follows_rollback fun _ _ _ => trivial
    · apply follows_bind
      · exact follows_tell (fun _ => rfl) fun _ _ => rfl
      · intro _ L2 db2
        apply commitResult_follows
        rw [jobKey_jobOf]
        exact h

theorem ingestVerified_follows {envelope : WebhookEnvelope} :
    Follows L db (ingestVerified settings webhook envelope) := by
  unfold ingestVerified
  apply follows_seq readOnly_readNow
  intro now L1 db1 _ _ _
  apply follows_seq insertEventIdempotent_registers
  rintro ⟨session, inserted⟩ L2 db2 hregisters _ _
  dsimp only
  have hset {order : Option DeliveryKey} {set : DeliveryWebhookEvent → DeliveryWebhookEvent} :
      Registers order (session.stage [] (setEvent webhook.eventRowId set)).pending :=
    (registers_neutral order).comp session.pending (setEvent webhook.eventRowId set)
      (hregisters order) (registers_event (fun _ => rfl) (fun _ => rfl) fun _ => rfl)
  split
  · exact follows_bind (commitIngest_follows (hregisters none)) fun _ _ _ => trivial
  · apply follows_seq readOnly_read
    intro connection L3 db3 _ _ _
    cases connection with
    | none => exact follows_bind (commitIngest_follows hset) fun _ _ _ => trivial
    | some connection =>
        dsimp only
        split
        · exact commitResult_follows hset
        next externalOrderId _ =>
          apply follows_seq
          · exact insertDeliveryOrderIdempotent_registers hset ⟨rfl, rfl, rfl, rfl⟩
          · intro session' L4 db4 hregisters' _ _
            exact enqueueOrder_follows hregisters'

theorem ingestDeliveryWebhook_follows :
    Follows L db (ingestDeliveryWebhook settings webhook) := by
  have hrejected {eventId category : String} {envelope : Option WebhookEnvelope} :
      Follows L db (logRejected webhook eventId envelope category) := by
    apply follows_seq readOnly_readNow
    intro now L1 db1 _ _ _
    apply follows_seq insertEventIdempotent_registers
    rintro ⟨session, inserted⟩ L2 db2 hregisters _ _
    exact follows_bind (commitIngest_follows (hregisters none)) fun _ _ _ => trivial
  unfold ingestDeliveryWebhook
  split
  · trivial
  · split
    · exact hrejected
    · split
      · exact hrejected
      · exact ingestVerified_follows

end Intake

section Routes

variable {L : Set RowKey} {db : Database} {user : AuthUser} {orderId : Uuid}

theorem loadOrderOr404_traces {α : Type} {businessId : Uuid} {f : DeliveryOrder → Handler α}
    (h : ∀ row L' db', Locked L' row db' → Follows L' db' (f row)) :
    Follows L db ((RoutesDelivery.loadOrderOr404 businessId orderId).bind f) := by
  intro db' _ _
  dsimp only [Txn.bind]
  cases hread : (db'.deliveryOrders.lookup orderId).filter fun row => row.businessId = businessId with
  | none => trivial
  | some row =>
      obtain ⟨hlookup, -⟩ := Option.filter_eq_some_iff.mp hread
      have hid : row.id = orderId := Table.lookup_key hlookup
      refine h row _ db' ⟨?_, ?_⟩
      · rw [hid]
        exact Set.mem_insert _ _
      · rw [hid]
        exact hlookup

@[simp]
theorem readOnly_requireDeliveryModuleEnabled {businessId : Uuid} :
    (RoutesDelivery.requireDeliveryModuleEnabled businessId).ReadOnly fun _ => True :=
  readOnly_seq readOnly_loadBusiness fun _ => readOnly_seq readOnly_ensure fun _ => trivial

@[simp]
theorem readOnly_refreshRow : (RoutesDelivery.refreshRow orderId).ReadOnly fun _ => True :=
  readOnly_seq readOnly_read fun _ => readOnly_found

theorem follows_readOnly {α : Type} {x : Handler α} (hx : x.ReadOnly fun _ => True) :
    Follows L db x :=
  (traces_of_readOnly hx).mono fun _ _ _ _ => trivial

theorem acceptOrder_follows {request : RoutesDelivery.AcceptOrderRequest} :
    Follows L db (RoutesDelivery.acceptOrder user orderId request) := by
  apply follows_seq readOnly_requireStaffOrAbove
  intro _ L1 db1 _ _ _
  apply follows_seq readOnly_requireDeliveryModuleEnabled
  intro _ L2 db2 _ _ _
  apply loadOrderOr404_traces
  intro row L3 db3 hlock
  apply follows_seq ensure_ok
  intro _ L4 db4 hstatus hsub4 hrely4
  apply follows_seq readOnly_ensure
  intro _ L5 db5 _ hsub5 hrely5
  have hlock5 : Locked L5 row db5 := (hlock.next hsub4 hrely4).next hsub5 hrely5
  have haccepts : Accepts (row.status = .readyToAccept) row { row with status := .received } := by
    refine ⟨?_, rfl, rfl, rfl⟩
    rcases hstatus with h | h <;> simp [h]
  have hset : KeepsKey fun row => { row with status := .received } :=
    ⟨fun _ => rfl, fun _ => rfl⟩
  apply traces_bind.mpr
  refine (save_traces hlock5 hset (fun _ => rfl) haccepts ?_).mono ?_
  · intro db' db'' hrewrites htables hjobs
    exact ⟨hrewrites, apart_of_pending htables hjobs rfl rfl⟩
  · rintro (_ | _) L6 db6 ⟨row', hrow', hkey⟩
    · trivial
    · apply follows_seq readOnly_ensure
      intro _ L7 db7 _ _ hrely7
      apply follows_bind
      · refine follows_tell (fun _ => rfl) fun db' hrely => ⟨rfl, rfl, ?_⟩
        obtain ⟨row1, hrow1, hkey1⟩ := hrely7.1 _ _ hrow'
        obtain ⟨row2, hrow2, hkey2⟩ := hrely.1 _ _ hrow1
        exact ⟨row2, hrow2, ((hkey2.trans hkey1).trans hkey).symm⟩
      · intro _ _ _
        exact follows_readOnly readOnly_refreshRow

theorem denyOrder_follows {adapter : DeliveryProviderAdapter}
    {body : RoutesDelivery.DenyOrderRequest} :
    Follows L db (RoutesDelivery.denyOrder user orderId adapter body) := by
  apply follows_seq readOnly_requireStaffOrAbove
  intro _ L1 db1 _ _ _
  apply follows_seq readOnly_requireDeliveryModuleEnabled
  intro _ L2 db2 _ _ _
  apply loadOrderOr404_traces
  intro row L3 db3 hlock
  apply follows_seq ensure_ok
  intro _ L4 db4 hopen hsub4 hrely4
  apply follows_seq readOnly_read
  intro connection L5 db5 _ hsub5 hrely5
  apply follows_seq issueDeny_denies
  rintro _ L6 db6 ⟨now, rfl⟩ hsub6 hrely6
  have hlock6 : Locked L6 row db6 :=
    ((hlock.next hsub4 hrely4).next hsub5 hrely5).next hsub6 hrely6
  have hdenies {explanation : String} : Denies row (denied now body.reasonCode explanation row) :=
    ⟨hopen, rfl, rfl⟩
  have hset {explanation : String} : KeepsKey (denied now body.reasonCode explanation) :=
    ⟨fun _ => rfl, fun _ => rfl⟩
  apply follows_bind
  · refine follows_save hlock6 hset (fun _ => rfl) hdenies ?_
    intro db' db'' hrewrites htables hjobs
    exact ⟨hrewrites, apart_of_pending htables hjobs rfl rfl⟩
  · intro _ _ _
    exact follows_readOnly readOnly_refreshRow

end Routes

section Watchdog

variable {L : Set RowKey} {db : Database} {settings : DeliverySettings} {now : Instant}
  {claimed ids : List Uuid} {session : Session}

-- The claimed rows are locked and open, and the session denies these and no others.
structure Claims (now : Instant) (claimed : List Uuid) (session : Session) (L : Set RowKey)
    (db : Database) : Prop where
  locked : ∀ id ∈ claimed, ∃ row, row.id = id ∧ Locked L row db ∧ row.status ∈ openOrderStatuses
  rows : ∀ t id, (session.pending t).deliveryOrders.lookup id =
    if id ∈ claimed then (t.deliveryOrders.lookup id).map (watchdogDenial now)
    else t.deliveryOrders.lookup id
  orders : ∀ t, (session.pending t).orders = t.orders
  stockMovements : ∀ t, (session.pending t).stockMovements = t.stockMovements

theorem claims_nil : Claims now [] {} L db where
  locked := by simp
  rows _ _ := by simp
  orders _ := rfl
  stockMovements _ := rfl

theorem Claims.next {L' : Set RowKey} {db' : Database} (h : Claims now claimed session L db)
    (hsub : L ⊆ L') (hrely : discipline.rely L db db') : Claims now claimed session L' db' where
  locked id hid := by
    obtain ⟨row, hrow, hlock, hopen⟩ := h.locked id hid
    exact ⟨row, hrow, hlock.next hsub hrely, hopen⟩
  rows := h.rows
  orders := h.orders
  stockMovements := h.stockMovements

theorem Claims.add {row : DeliveryOrder} (h : Claims now claimed session L db)
    (hlock : Locked L row db) (hopen : row.status ∈ openOrderStatuses) :
    Claims now (claimed ++ [row.id]) (session.stage [.deliveryOrder row.id]
      (setDeliveryOrder row.id (watchdogDenial now))) L db where
  locked id hid := by
    rcases List.mem_append.mp hid with hid | hid
    · exact h.locked id hid
    · exact ⟨row, (List.mem_singleton.mp hid).symm, hlock, hopen⟩
  rows t id := by
    have hmodify : (((session.pending t).deliveryOrders).modify row.id (watchdogDenial now)).lookup
        id = if id = row.id then ((session.pending t).deliveryOrders.lookup row.id).map
          (watchdogDenial now) else (session.pending t).deliveryOrders.lookup id :=
      Table.lookup_modify fun _ => rfl
    refine hmodify.trans ?_
    by_cases hid : id = row.id
    · subst hid
      have htwice : watchdogDenial now ∘ watchdogDenial now = watchdogDenial now := rfl
      rw [if_pos rfl, h.rows]
      by_cases hmem : row.id ∈ claimed <;> simp [hmem, htwice]
    · rw [if_neg hid, h.rows]
      simp [hid]
  orders t := h.orders t
  stockMovements t := h.stockMovements t

theorem claimRows_traces (h : Claims now claimed session L db) :
    Traces discipline Effect L db (claimRows settings now ids claimed session) fun r L' db' =>
      ∀ result, r = .ok result → Claims now result.1 result.2 L' db' := by
  induction ids generalizing L db claimed session with
  | nil =>
      intro result hresult
      obtain rfl := Except.ok.inj hresult
      exact h
  | cons id ids ih =>
      intro db' _ hrely
      have hnext : Claims now claimed session (insert (.deliveryOrder id) L) db' :=
        h.next (Set.subset_insert _ _) hrely
      change Traces discipline Effect (insert (.deliveryOrder id) L) db'
        (if (rowOf id db').any (isDue settings now) then _ else _) _
      split
      next hdue =>
        obtain ⟨row, hrow, hrowDue⟩ := (Option.any_eq_true _ _).mp hdue
        have hid : row.id = id := Table.lookup_key hrow
        have hopen : row.status ∈ openOrderStatuses := of_decide_eq_true (Bool.and_eq_true_iff.mp hrowDue).1
        subst hid
        exact ih (hnext.add ⟨Set.mem_insert _ _, hrow⟩ hopen)
      next => exact ih hnext

theorem Claims.expires {db' : Database} (h : Claims now claimed session L db)
    (hwrite : db.write session.pending = .ok db') :
    discipline.guar L db db' ∧ Effect (.deliveryAcceptDeadlineWatchdog claimed) db db' := by
  obtain ⟨htables, -⟩ := Database.write_ok hwrite
  have hlookup (id : Uuid) : rowOf id db' =
      if id ∈ claimed then (rowOf id db).map (watchdogDenial now) else rowOf id db := by
    unfold rowOf
    rw [htables]
    exact h.rows db.toTables id
  have hothers (id : Uuid) (hid : id ∉ claimed) : rowOf id db' = rowOf id db := by
    rw [hlookup, if_neg hid]
  have hclaimed (id : Uuid) (hid : id ∈ claimed) (row : DeliveryOrder)
      (hrow : rowOf id db = some row) : rowOf id db' = some (watchdogDenial now row) := by
    rw [hlookup, if_pos hid, hrow]
    rfl
  refine ⟨⟨fun id row hrow => ?_, fun id row hnot hrow => ?_⟩, ⟨fun id hid => ?_, hothers⟩, ?_⟩
  · by_cases hid : id ∈ claimed
    · exact ⟨_, hclaimed id hid row hrow, rfl⟩
    · exact ⟨row, (hothers id hid).trans hrow, rfl⟩
  · have hid : id ∉ claimed := by
      intro hid
      obtain ⟨row', rfl, hlock, -⟩ := h.locked id hid
      exact hnot hlock.lock
    exact (hothers id hid).trans hrow
  · obtain ⟨row, rfl, hlock, hopen⟩ := h.locked id hid
    exact ⟨row, _, hlock.row, hclaimed _ hid row hlock.row, rfl, hopen, rfl, rfl⟩
  · exact apart_of_pending htables (Database.write_jobs hwrite) (h.orders _) (h.stockMovements _)

theorem deliveryAcceptDeadlineWatchdog_follows {rows : List Uuid} :
    Follows L db (deliveryAcceptDeadlineWatchdog settings rows) := by
  apply follows_seq readOnly_readNow
  intro now L1 db1 _ _ _
  apply traces_bind.mpr
  have hnil : Claims now [] {} L1 db1 := claims_nil
  refine (claimRows_traces hnil).mono fun result L2 db2 hclaims => ?_
  cases result with
  | error e => trivial
  | ok result =>
      obtain ⟨claimed, session⟩ := result
      have hclaims := hclaims _ rfl
      dsimp only at hclaims ⊢
      split
      · trivial
      · apply traces_bind.mpr
        refine traces_tryCommit.mpr fun db' _ hrely _ => ⟨fun db'' hwrite => ?_, fun _ _ => trivial⟩
        obtain ⟨hguar, heffect⟩ := (hclaims.next subset_rfl hrely).expires hwrite
        refine ⟨⟨?_, heffect⟩, trivial⟩
        exact ⟨hguar.1, fun id row hid hrow => hguar.2 id row (fun h => hid (.inl h)) hrow⟩

end Watchdog

section System

variable {ι : Type} [DecidableEq ι] {processes : ι → Process} {db₀ : Database}
  {admits : DeliverySystem ι → ι → Prop} {c : DeliverySystem ι}
  {I : Database → List (ι × CommitSite) → Prop}
  {p : List (ι × CommitSite) → CommitSite → Database → Prop}

theorem handleDelivery_follows (request : DeliveryRequest) {L : Set RowKey} {db : Database} :
    Follows L db (handleDelivery request) := by
  cases request with
  | webhook settings webhook =>
      exact follows_bind ingestDeliveryWebhook_follows fun _ _ _ => trivial
  | work execution jobId retries => exact follows_bind work_follows fun _ _ _ => trivial
  | acceptOrder user orderId request =>
      exact follows_bind acceptOrder_follows fun _ _ _ => trivial
  | denyOrder user orderId adapter body =>
      exact follows_bind denyOrder_follows fun _ _ _ => trivial
  | watchdog settings rows =>
      exact follows_bind deliveryAcceptDeadlineWatchdog_follows fun _ _ _ => trivial

theorem program_follows (process : Process) {L : Set RowKey} {db : Database} :
    Follows L db process.program := by
  unfold Process.program
  cases process.crash with
  | none => exact handleDelivery_follows process.request
  | some n => exact traces_crashAfter (handleDelivery_follows process.request) fun _ _ => trivial

theorem DeliveryEnvironment.rowOf_eq {db' : Database} (h : DeliveryEnvironment db db') (id : Uuid) :
    rowOf id db' = rowOf id db := by
  unfold rowOf
  rw [h.deliveryOrders]

theorem environment_respects : discipline.Respects DeliveryEnvironment := by
  intro db db' _ henv
  exact ⟨trivial, fun L => ⟨fun id row hrow => ⟨row, (henv.rowOf_eq id).trans hrow, rfl⟩,
    fun id row _ hrow => (henv.rowOf_eq id).trans hrow⟩⟩

-- What every commit preserves, given what it meets, holds wherever the processes can get to.
theorem delivery_reachable
    (hcommit : ∀ i site db db' log, p log site db → Effect site db db' → I db log →
      I db' (log ++ [(i, site)]))
    (hkeeps : ∀ db db' log, DeliveryEnvironment db db' → I db log → I db' log)
    (hadmits : ∀ c i, admits c i → c.Meets (p c.log) i) (hstart : I db₀ [])
    (hreach : Reachable DeliveryEnvironment admits (launch db₀ processes) c) : I c.db c.log := by
  have htraced : Traced discipline Effect (fun _ _ => True) (launch db₀ processes) :=
    traced_start trivial fun i => program_follows (processes i)
  refine (traced_reachable (p := p) ?_ ?_ environment_respects ?_ htraced hstart hreach).2
  · intro i site L db db' log _ hp _ heffect hI
    exact hcommit i site db db' log hp heffect hI
  · intro db db' log _ henv hI
    exact hkeeps db db' log henv hI
  · intro c i ha
    exact ⟨meets_of_forall (fun _ _ => trivial) c i, hadmits c i ha⟩

end System

end NextgenBackend.Delivery
