import NextgenBackend.Bot.Pipeline

namespace NextgenBackend.PriorOrders

open Txn NextgenBackend.Bot

def isUnpaid (status : PaymentStatus) : Bool :=
  status ∈ [.unpaid, .pending, .failed, .cashOnCollection]

def isReplaceable (o : Order) : Bool :=
  o.source = .whatsapp && isUnpaid o.paymentStatus &&
    o.status ∈ Inventory.prePreparationStatuses

def receiver (message : InboundMessage) (t : Tables) : Option Business :=
  t.businesses.find? fun b => b.whatsappPhoneNumberId = some message.phoneNumberId

def senderId (business : Business) (message : InboundMessage) (t : Tables) : Uuid :=
  (customerOf business.id message.waId t).elim message.newCustomerId (·.id)

def remembered (businessId customerId : Uuid) (db : Database) : Option Uuid :=
  (db.conversationSessions.lookup (businessId, customerId)).bind fun conversation =>
    (resume db.now conversation).context.supersededOrderId

def isLive (businessId customerId : Uuid) (o : Order) : Prop :=
  o.businessId = businessId ∧ o.customerId = some customerId ∧ o.status ∈ cancellableStatuses

def isSuperseded (businessId : Uuid) (superseded : Option Uuid) (o : Order) : Prop :=
  superseded = some o.id ∧ supersedable businessId o = true

-- The customer's live orders and the one remembered as superseded, if it is still open.
def isExposed (message : InboundMessage) (db : Database) (o : Order) : Prop :=
  ∃ business ∈ receiver message db.toTables,
    isSuperseded business.id
        (remembered business.id (senderId business message db.toTables) db) o ∨
      isLive business.id (senderId business message db.toTables) o

def Places (message : InboundMessage) (db : Database) : Prop :=
  db.orders.lookup message.newOrderId = none ∧
    (((processInboundMessage message).run db).2.orders.lookup message.newOrderId).isSome

instance (message : InboundMessage) (db : Database) : Decidable (Places message db) :=
  inferInstanceAs (Decidable (_ ∧ _))

structure Cancels (cancelled : Order → Prop) (db : Database) (created : List Uuid)
    (session : Session) : Prop where
  ids : (session.pending db.toTables).orders.map key = db.orders.map key ++ created
  rows : ∀ o ∈ db.orders, ∃ o', (session.pending db.toTables).orders.lookup o.id = some o' ∧
    o'.businessId = o.businessId ∧ o'.customerId = o.customerId ∧
      (cancelled o → o'.status = .cancelled) ∧ (¬ cancelled o → o'.status = o.status)

def SameOrders (f : Pending) : Prop :=
  ∀ t, (f t).orders = t.orders

def Fresh (db : Database) (session : Session) : Prop :=
  (session.pending db.toTables).orders = db.orders

section Sessions

variable {cancelled cancelled' : Order → Prop} {db : Database} {created : List Uuid}
  {session session' : Session}

theorem sameOrders_neutral : Neutral SameOrders where
  id _ := rfl
  comp f _ hf hg t := (hg (f t)).trans (hf t)

theorem sameOrders_addOrderEvent (event : OrderEvent) :
    SameOrders (RoutesPayments.addOrderEvent event) := fun _ => rfl

theorem sameOrders_insertOrderRows (items : List OrderItem) (event : OrderEvent) :
    SameOrders (RoutesPos.insertOrderRows items event []) := fun _ => rfl

theorem sameOrders_setCustomer {customerId : Uuid} {set : Customer → Customer} :
    SameOrders (setCustomer customerId set) := fun _ => rfl

theorem sameOrders_setConversation {businessId customerId : Uuid}
    {set : ConversationSession → ConversationSession} :
    SameOrders (setConversation businessId customerId set) := fun _ => rfl

theorem sameOrders_insertMessage (row : Message) : SameOrders (insertMessage row) := fun _ => rfl

theorem sameOrders_persistInbound (message : InboundMessage) :
    SameOrders (persistInbound message) := fun _ => rfl

theorem Fresh.stage (h : Fresh db session) (touched : List RowKey) {f : Pending}
    (hf : SameOrders f) : Fresh db (session.stage touched f) :=
  (hf _).trans h

theorem Fresh.cancels (h : Fresh db session) : Cancels (fun _ => False) db [] session := by
  constructor
  · rw [h, List.append_nil]
  · intro o ho
    have hlookup : db.orders.lookup o.id = some o := Table.lookup_of_mem (db.valid .ordersPkey) ho
    refine ⟨o, ?_, rfl, rfl, False.elim, fun _ => rfl⟩
    rw [h]
    exact hlookup

theorem Cancels.congr (h : Cancels cancelled db created session)
    (hiff : ∀ o ∈ db.orders, cancelled o ↔ cancelled' o) :
    Cancels cancelled' db created session := by
  constructor
  · exact h.ids
  · intro o ho
    obtain ⟨o', hlookup, hbusiness, hcustomer, hyes, hno⟩ := h.rows o ho
    exact ⟨o', hlookup, hbusiness, hcustomer, fun hc => hyes ((hiff o ho).mpr hc),
      fun hc => hno fun hc' => hc ((hiff o ho).mp hc')⟩

theorem Cancels.extends (h : Cancels cancelled db created session)
    (hs : session.Extends SameOrders session') : Cancels cancelled db created session' := by
  obtain ⟨f, hf, hpending⟩ := hs
  have horders : (session'.pending db.toTables).orders = (session.pending db.toTables).orders := by
    rw [hpending]
    exact hf _
  constructor
  · rw [horders]
    exact h.ids
  · rw [horders]
    exact h.rows

theorem Cancels.stage (h : Cancels cancelled db created session) (touched : List RowKey)
    {f : Pending} (hf : SameOrders f) :
    Cancels cancelled db created (session.stage touched f) :=
  h.extends (Session.extends_stage hf)

theorem Cancels.setOrder (h : Cancels cancelled db created session) (touched : List RowKey)
    (orderId : Uuid) (set : Order → Order) (hset : ∀ o, (set o).id = o.id ∧ (set o).businessId = o.businessId ∧
      (set o).customerId = o.customerId ∧ (set o).status = .cancelled) :
    Cancels (fun o => cancelled o ∨ o.id = orderId) db created
      (session.stage touched (NextgenBackend.setOrder orderId set)) := by
  have hkey (o : Order) : key (set o) = key o := (hset o).1
  have hview : ((session.stage touched (NextgenBackend.setOrder orderId set)).pending
      db.toTables).orders = (session.pending db.toTables).orders.modify orderId set := rfl
  constructor
  · rw [hview, Table.map_key_modify hkey]
    exact h.ids
  · intro o ho
    obtain ⟨o', hlookup, hbusiness, hcustomer, hyes, hno⟩ := h.rows o ho
    rw [hview]
    by_cases hid : o.id = orderId
    · refine ⟨set o', ?_, (hset o').2.1.trans hbusiness, (hset o').2.2.1.trans hcustomer,
        fun _ => (hset o').2.2.2, fun hnot => absurd (.inr hid) hnot⟩
      subst hid
      rw [Table.lookup_modify_self hkey, hlookup]
      rfl
    · refine ⟨o', ?_, hbusiness, hcustomer, fun hc => hyes (hc.resolve_right hid),
        fun hnot => hno fun hc => hnot (.inl hc)⟩
      rw [Table.lookup_modify_ne hkey hid]
      exact hlookup

theorem Cancels.insertOrder (h : Cancels cancelled db [] session) (touched : List RowKey)
    (order : Order) : Cancels cancelled db [order.id]
      (session.stage touched (RoutesPos.insertOrder order)) := by
  have hview : ((session.stage touched (RoutesPos.insertOrder order)).pending db.toTables).orders =
      (session.pending db.toTables).orders.insert order := rfl
  constructor
  · rw [hview]
    have hids := h.ids
    simp only [List.append_nil] at hids
    simp only [Table.insert, List.map_append, hids]
    rfl
  · intro o ho
    obtain ⟨o', hlookup, hrest⟩ := h.rows o ho
    rw [hview]
    exact ⟨o', Table.lookup_insert_of_some hlookup, hrest⟩

theorem Cancels.primaryKey {orderId : Uuid} (h : Cancels cancelled db [orderId] session)
    (hnew : db.orders.lookup orderId = none) :
    (session.pending db.toTables).orders.PrimaryKey := by
  have hpk : (db.orders.map key).Nodup := db.valid .ordersPkey
  unfold Table.PrimaryKey
  rw [h.ids, List.nodup_append]
  refine ⟨hpk, List.nodup_singleton _, ?_⟩
  intro id hid id' hid'
  obtain ⟨o, ho, rfl⟩ := List.mem_map.mp hid
  obtain rfl := List.mem_singleton.mp hid'
  exact Table.lookup_eq_none.mp hnew o ho

end Sessions

section Placing

variable {cancelled : Order → Prop} {db : Database} {created : List Uuid} {session : Session}
  {business : Business} {customer : Customer} {message : InboundMessage}

theorem reverseConsumptionOnCancel_cancels {owner orderId : Uuid} {inventoryEnabled : Bool}
    {previous : OrderStatus} {userId : Option Uuid} (h : Cancels cancelled db created session) :
    (Inventory.reverseConsumptionOnCancel session owner inventoryEnabled orderId previous
      userId).Yields db (Cancels cancelled db created) := by
  apply Yields.mono (Inventory.reverseConsumptionOnCancel_stages sameOrders_neutral
    fun _ _ _ _ _ => rfl).yields
  intro session' hs
  exact h.extends hs

theorem updateOrder_cancels {orderId : Uuid} {condition : Order → Bool} {reason : String}
    (h : Cancels cancelled db created session) :
    (updateOrder session orderId condition (cancelWith reason)).Yields db fun written =>
      Cancels (fun o => cancelled o ∨ o.id = orderId ∧
        ((session.pending db.toTables).orders.lookup orderId).any condition = true) db created
          written.1 := by
  unfold updateOrder
  apply yields_seq (yields_read rfl)
  rintro found rfl
  split
  next hnone =>
    apply yields_done
    apply h.congr
    intro o ho
    constructor
    · exact .inl
    · rintro (hc | ⟨rfl, hany⟩)
      · exact hc
      · obtain ⟨o', hlookup, -⟩ := h.rows o ho
        simp [hlookup, Option.filter] at hnone hany
        simp [hany] at hnone
  next found hsome =>
    apply yields_seq (S := fun locked => locked = some found)
    · exact yields_lock hsome
    rintro locked rfl
    apply yields_done
    have hany : ((session.pending db.toTables).orders.lookup orderId).any condition = true := by
      obtain ⟨hlookup, hcondition⟩ := Option.filter_eq_some_iff.mp hsome
      simp [hlookup, hcondition]
    apply (h.setOrder [.order orderId] orderId (cancelWith reason) fun _ =>
      ⟨rfl, rfl, rfl, rfl⟩).congr
    intro o _
    simp [hany]

theorem cancelSupersededOrder_cancels {superseded : Option Uuid} (h : Fresh db session) :
    (cancelSupersededOrder session business superseded).Yields db fun written =>
      Cancels (isSuperseded business.id superseded) db [] written.1 := by
  unfold cancelSupersededOrder
  cases superseded with
  | none =>
      apply yields_done
      apply h.cancels.congr
      intro o _
      simp [isSuperseded]
  | some orderId =>
      apply yields_seq (yields_read rfl)
      rintro previous rfl
      apply yields_seq (updateOrder_cancels h.cancels)
      rintro ⟨session', updated⟩ hs
      have hsuperseded : Cancels (isSuperseded business.id (some orderId)) db [] session' := by
        apply hs.congr
        intro o ho
        have hlookup : db.orders.lookup o.id = some o :=
          Table.lookup_of_mem (db.valid .ordersPkey) ho
        rw [h]
        constructor
        · rintro (hfalse | ⟨rfl, hany⟩)
          · exact hfalse.elim
          · rw [hlookup] at hany
            exact ⟨rfl, hany⟩
        · rintro ⟨hid, hopen⟩
          obtain rfl := Option.some.inj hid
          refine .inr ⟨rfl, ?_⟩
          rw [hlookup]
          exact hopen
      have hstaged := hsuperseded.stage [] (sameOrders_addOrderEvent (statusEvent orderId business.id
        none .cancelled "Superseded by customer modification"))
      apply yields_seq (S := Cancels (isSuperseded business.id (some orderId)) db [])
      · unfold reverseIfFound
        split
        · exact yields_done hstaged
        · exact reverseConsumptionOnCancel_cancels hstaged
      · intro session hs
        exact yields_done hs

theorem createOrderFromCart_cancels {orderId : Uuid} {context : Context} {status : OrderStatus}
    (h : Cancels cancelled db [] session) :
    (createOrderFromCart session orderId business customer context status).Yields db
      (Cancels cancelled db [orderId]) := by
  unfold createOrderFromCart
  dsimp only
  split
  · exact yields_fail
  · apply yields_seq (S := fun numbered => Cancels cancelled db [] numbered.2.2)
    · apply yields_seq readOnly_lock.yields
      intro row _
      apply yields_seq readOnly_found.yields
      intro b _
      exact yields_done (h.stage _ fun _ => rfl)
    rintro ⟨sequence, currency, session'⟩ hs
    apply yields_seq readOnly_readNow.yields
    intro now _
    have hinserted := hs.insertOrder [] (newOrder orderId business customer context status sequence
      now)
    have hrows := hinserted.stage [] (sameOrders_insertOrderRows
      ((orderCart context).map (cartOrderItem (newOrder orderId business customer context status
        sequence now))) (creationEvent (newOrder orderId business customer context status sequence
          now)))
    apply Yields.mono (readOnly_stageWhen sameOrders_neutral
      (Inventory.postSaleConsumption_stages sameOrders_neutral fun _ _ => rfl)).yields
    intro session'' hs'
    exact hrows.extends hs'

theorem cancelOldOrders_cancels {orders : List Order} (h : Cancels cancelled db created session) :
    (cancelOldOrders business orders session).Yields db
      (Cancels (fun o => cancelled o ∨ ∃ old ∈ orders, o.id = old.id) db created) := by
  induction orders generalizing session cancelled with
  | nil =>
      apply yields_done
      apply h.congr
      simp
  | cons old orders ih =>
      have hset := h.setOrder [.order old.id] old.id (fun o => { o with status := .cancelled })
        fun _ => ⟨rfl, rfl, rfl, rfl⟩
      have hstaged := hset.stage [] (sameOrders_addOrderEvent (statusEvent old.id business.id none
        .cancelled "Superseded by new customer order"))
      apply yields_seq (reverseConsumptionOnCancel_cancels hstaged)
      intro session hs
      apply Yields.mono (ih hs)
      intro session' hs'
      apply hs'.congr
      intro o _
      simp [or_assoc]

theorem cancelPriorLiveOrders_cancels {orderId : Uuid} {superseded : Option Uuid}
    (h : Cancels (isSuperseded business.id superseded) db [orderId] session)
    (hnew : db.orders.lookup orderId = none) :
    (cancelPriorLiveOrders session business customer orderId).Yields db fun written =>
      Cancels (fun o => isSuperseded business.id superseded o ∨ isLive business.id customer.id o)
        db [orderId] written.1 := by
  unfold cancelPriorLiveOrders
  apply yields_seq (yields_read rfl)
  rintro olds rfl
  apply yields_seq (cancelOldOrders_cancels h)
  intro session' hs
  apply yields_seq (S := fun _ => True)
  · have hlocks (ids : List Uuid) : (lockOrders ids).ReadOnly fun _ => True := by
      induction ids with
      | nil => trivial
      | cons id ids ih => exact readOnly_seq readOnly_lock fun _ => ih
    exact (hlocks _).yields
  intro _ _
  apply yields_done
  apply hs.congr
  intro o ho
  have hne : o.id ≠ orderId := Table.lookup_eq_none.mp hnew o ho
  obtain ⟨o', hlookup, hbusiness, hcustomer, hyes, hno⟩ := h.rows o ho
  have hid : o'.id = o.id := Table.lookup_key hlookup
  by_cases hc : isSuperseded business.id superseded o
  · simp [hc]
  · have hstatus := hno hc
    have hlive : isLive business.id customer.id o ↔ ∃ old ∈ liveOrdersOf business.id customer.id
        orderId (session.pending db.toTables), o.id = old.id := by
      simp only [liveOrdersOf, List.mem_filter, decide_eq_true_eq]
      constructor
      · rintro ⟨hb, hcust, hst⟩
        refine ⟨o', ⟨Table.lookup_mem hlookup, hbusiness.trans hb, hcustomer.trans hcust, ?_, ?_⟩,
          hid.symm⟩
        · rw [hid]
          exact hne
        · rw [hstatus]
          exact hst
      · rintro ⟨old, ⟨hmem, hb, hcust, -, hst⟩, heq⟩
        have hold := Table.lookup_of_mem (h.primaryKey hnew) hmem
        have hsame : old = o' := by
          have hkey : key old = o.id := heq.symm
          rw [hkey] at hold
          exact Option.some.inj (hold.symm.trans hlookup)
        subst hsame
        exact ⟨hbusiness.symm.trans hb, hcustomer.symm.trans hcust, hstatus ▸ hst⟩
    rw [hlive]

theorem placeOrder_cancels {superseded : Option Uuid} {status : OrderStatus} {context : Context}
    (h : Fresh db session) (hnew : db.orders.lookup message.newOrderId = none) :
    (placeOrder session message business customer superseded status context).Yields db
      fun placed => Cancels (fun o => isSuperseded business.id superseded o ∨
        isLive business.id customer.id o) db [message.newOrderId] placed.1 := by
  apply yields_seq (cancelSupersededOrder_cancels h)
  intro written hs
  apply yields_seq (createOrderFromCart_cancels hs)
  intro session hs
  apply yields_seq (cancelPriorLiveOrders_cancels hs hnew)
  intro written hs
  exact yields_done hs

def SameIds (f : Pending) : Prop :=
  ∀ t, (f t).orders.map key = t.orders.map key

theorem sameIds_neutral : Neutral SameIds where
  id _ := rfl
  comp f _ hf hg t := (hg (f t)).trans (hf t)

theorem sameIds_of_same {f : Pending} (h : SameOrders f) : SameIds f := by
  intro t
  rw [h t]

theorem updateOrder_ids {orderId : Uuid} {condition : Order → Bool} {set : Order → Order}
    (hset : ∀ o, key (set o) = key o) :
    (updateOrder session orderId condition set).Yields db fun written =>
      session.Extends SameIds written.1 := by
  unfold updateOrder
  apply yields_seq readOnly_read.yields
  intro found _
  split
  · exact yields_done sameIds_neutral.refl
  · apply yields_seq readOnly_lock.yields
    intro locked _
    split
    · exact yields_done sameIds_neutral.refl
    · apply yields_done
      apply Session.extends_stage
      intro t
      exact Table.map_key_modify hset

theorem rejectDeliveryFee_ids {orderId : Uuid} :
    (rejectDeliveryFee session business orderId).Yields db fun written =>
      session.Extends SameIds written.1 := by
  unfold rejectDeliveryFee
  apply yields_seq readOnly_read.yields
  intro previous _
  have hkey (o : Order) : key (cancelWith "Customer rejected delivery fee" o) = key o := rfl
  apply yields_seq (updateOrder_ids hkey)
  rintro ⟨session', updated⟩ hs
  have hevent : session'.Extends SameIds (session'.stage [] (RoutesPayments.addOrderEvent
      (statusEvent orderId business.id (some .pendingDeliveryFee) .cancelled
        "Customer rejected delivery fee"))) :=
    Session.extends_stage (sameIds_of_same (sameOrders_addOrderEvent _))
  have hs := sameIds_neutral.trans hs hevent
  apply yields_seq (S := session.Extends SameIds)
  · unfold reverseIfFound
    split
    · exact yields_done hs
    · apply Yields.mono (Inventory.reverseConsumptionOnCancel_stages sameIds_neutral
        fun _ _ _ _ _ => rfl).yields
      intro session'' hs'
      exact sameIds_neutral.trans hs hs'
  · intro session hs
    exact yields_done hs

theorem finalizeDelivery_ids {orderId : Uuid} {feeCents : Cents} {payment : Option ChosenPayment} :
    (finalizeDelivery session business orderId feeCents payment).Yields db fun written =>
      session.Extends SameIds written.1 := by
  have hkey (o : Order) : key (finalizeWith business feeCents payment o) = key o := rfl
  apply yields_seq (updateOrder_ids hkey)
  intro written hs
  apply yields_done
  exact sameIds_neutral.trans hs (Session.extends_stage (sameIds_of_same fun _ => rfl))

def Outcome (exposed : Order → Prop) (db : Database) (orderId : Uuid) (session : Session) : Prop :=
  (session.pending db.toTables).orders.map key = db.orders.map key ∨
    Cancels exposed db [orderId] session

theorem Fresh.outcome {exposed : Order → Prop} {orderId : Uuid} (h : Fresh db session) :
    Outcome exposed db orderId session := by
  left
  rw [h]

theorem Fresh.unplaced {exposed : Order → Prop} {orderId : Uuid} {session' : Session}
    (h : Fresh db session) (hs : session.Extends SameIds session') :
    Outcome exposed db orderId session' := by
  obtain ⟨f, hf, hpending⟩ := hs
  left
  rw [hpending, Function.comp_apply, hf, h]

theorem Outcome.stage {exposed : Order → Prop} {orderId : Uuid}
    (h : Outcome exposed db orderId session) (touched : List RowKey) {f : Pending}
    (hf : SameOrders f) : Outcome exposed db orderId (session.stage touched f) := by
  rcases h with hids | hcancels
  · left
    have hview : ((session.stage touched f).pending db.toTables).orders =
        (session.pending db.toTables).orders := hf _
    rw [hview, hids]
  · exact .inr (hcancels.stage touched hf)

theorem perform_outcome {turn turn' : Turn} (h : Fresh db session) (hfits : turn.Fits turn')
    (hnew : db.orders.lookup message.newOrderId = none) :
    (perform session message business turn').Yields db fun written =>
      Outcome (fun o => isSuperseded business.id turn.conversation.context.supersededOrderId o ∨
        isLive business.id turn.customer.id o) db message.newOrderId written.1 := by
  unfold perform
  split
  · exact yields_done h.outcome
  next superseded status context heffect =>
    obtain ⟨rfl, -⟩ := hfits.effect _ heffect
    rw [← hfits.customer]
    exact (placeOrder_cancels h hnew).mono fun _ => .inr
  · exact rejectDeliveryFee_ids.mono fun _ => h.unplaced
  · exact finalizeDelivery_ids.mono fun _ => h.unplaced

theorem getOrCreateCustomer_fresh :
    (getOrCreateCustomer business.id message).Yields db fun known =>
      known.1.id = senderId business message db.toTables ∧ Fresh db known.2 := by
  unfold getOrCreateCustomer senderId
  apply yields_seq (yields_read rfl)
  rintro known rfl
  cases hknown : customerOf business.id message.waId db.toTables with
  | some customer => exact yields_done ⟨rfl, rfl⟩
  | none =>
      apply yields_seq (S := fun inserted => inserted = none)
      · exact yields_lock hknown
      rintro inserted rfl
      exact yields_done ⟨rfl, rfl⟩

theorem getOrCreateSession_fresh {customerId : Uuid} (h : Fresh db session) :
    (getOrCreateSession session business.id customerId).Yields db fun resumed =>
      resumed.1.context.supersededOrderId = remembered business.id customerId db ∧
        Fresh db resumed.2 := by
  unfold getOrCreateSession remembered
  apply yields_seq (S := fun now => now = db.now)
  · exact yields_read rfl
  rintro now rfl
  apply yields_seq (S := fun row =>
    row = db.conversationSessions.lookup (business.id, customerId))
  · exact yields_lock rfl
  rintro row rfl
  cases hrow : db.conversationSessions.lookup (business.id, customerId) with
  | some conversation => exact yields_done ⟨rfl, h⟩
  | none =>
      apply yields_done
      constructor
      · unfold resume
        dsimp only [newConversation]
        split
        · rfl
        · rfl
      · exact h.stage _ fun _ => rfl

theorem converse_outcome {loaded : Customer} (h : Fresh db session)
    (hnew : db.orders.lookup message.newOrderId = none) :
    (converse session message business loaded customer).Yields db fun processed =>
      Outcome (fun o => isSuperseded business.id (remembered business.id customer.id db) o ∨
        isLive business.id customer.id o) db message.newOrderId processed.session := by
  unfold converse
  apply yields_seq (getOrCreateSession_fresh h)
  rintro ⟨conversation, session⟩ ⟨hremembered, hfresh⟩
  apply yields_seq readOnly_lock.yields
  intro _ _
  apply yields_seq readOnly_read.yields
  intro lastOrder _
  dsimp only at hremembered ⊢
  rw [← hremembered]
  apply yields_seq (perform_outcome hfresh takeTurn_fits hnew)
  rintro ⟨session, moves⟩ hs
  apply yields_done
  exact (hs.stage _ sameOrders_setConversation).stage _ sameOrders_setCustomer

theorem process_outcome (hnew : db.orders.lookup message.newOrderId = none) :
    (process message).Yields db fun processed =>
      Outcome (isExposed message db) db message.newOrderId processed.session := by
  unfold process
  apply yields_seq (S := fun business => business = receiver message db.toTables)
  · exact yields_read rfl
  rintro found rfl
  have hstart : Fresh db {} := rfl
  cases hbusiness : receiver message db.toTables with
  | none => exact yields_done hstart.outcome
  | some business =>
      dsimp only
      split
      · exact yields_done hstart.outcome
      · apply yields_seq getOrCreateCustomer_fresh
        rintro ⟨loaded, session⟩ ⟨hsender, hs⟩
        apply yields_seq readOnly_readNow.yields
        intro now _
        apply yields_seq readOnly_lock.yields
        intro taken _
        dsimp only at hsender hs ⊢
        split
        · exact yields_done (hs.stage _ sameOrders_setCustomer).outcome
        · have hreserved := hs.stage [] (sameOrders_insertMessage (reservation business.id
            (greetCustomer now message.contactName loaded).id message))
          have hkept := hreserved.stage [] (sameOrders_persistInbound message)
          split
          · exact yields_done (hreserved.stage _ sameOrders_setCustomer).outcome
          · split
            · exact yields_done (hkept.stage _ sameOrders_setCustomer).outcome
            · split
              · exact yields_done (hkept.stage _ sameOrders_setCustomer).outcome
              · apply Yields.mono (converse_outcome hkept hnew)
                intro processed hprocessed
                have hexposed (o : Order) : isSuperseded business.id
                    (remembered business.id loaded.id db) o ∨ isLive business.id loaded.id o ↔
                      isExposed message db o := by
                  rw [hsender]
                  simp [isExposed, hbusiness]
                rcases hprocessed with hids | hcancels
                · exact .inl hids
                · exact .inr (hcancels.congr fun o _ => hexposed o)

end Placing

theorem processInboundMessage_outcome {message : InboundMessage} {db : Database}
    (hnew : db.orders.lookup message.newOrderId = none) :
    (processInboundMessage message).Ensures db fun _ db' => db' = db ∨
      ∃ session, db'.toTables = session.pending db.toTables ∧
        Outcome (isExposed message db) db message.newOrderId session := by
  apply ensures_bind.mpr
  apply ensures_attempt.mpr
  apply Ensures.mono (process_outcome hnew)
  rintro r db' ⟨rfl, hprocessed⟩
  cases r with
  | error e => exact .inl rfl
  | ok processed =>
      apply ensures_bind.mpr
      apply ensures_tryCommit.mpr
      constructor
      · intro db'' hw
        exact .inr ⟨processed.session, (Database.write_ok hw).1, hprocessed processed rfl⟩
      · intro e _
        exact .inl rfl

theorem isExposed_open {message : InboundMessage} {db : Database} {o : Order}
    (h : isExposed message db o) : o.status ≠ .cancelled := by
  intro hstatus
  obtain ⟨business, -, ⟨-, hsupersedable⟩ | ⟨-, -, hlive⟩⟩ := h
  · simp [supersedable, hstatus] at hsupersedable
  · simp [cancellableStatuses, hstatus] at hlive

theorem placed_cancels {message : InboundMessage} {db : Database} (h : Places message db) :
    ∀ o ∈ db.orders, o ∈ cancelledBy db ((processInboundMessage message).run db).2 ↔
      isExposed message db o := by
  obtain ⟨hnew, hsome⟩ := h
  have houtcome := processInboundMessage_outcome hnew
  unfold Ensures at houtcome
  generalize ((processInboundMessage message).run db).2 = db' at hsome houtcome ⊢
  intro o ho
  obtain ⟨placed, hplaced⟩ := Option.isSome_iff_exists.mp hsome
  rcases houtcome with rfl | ⟨session, htables, hids | hcancels⟩
  · rw [hnew] at hplaced
    cases hplaced
  · have hmem : message.newOrderId ∈ db.orders.map key := by
      rw [← hids, ← htables]
      exact List.mem_map.mpr ⟨placed, Table.lookup_mem hplaced, Table.lookup_key hplaced⟩
    obtain ⟨o', ho', hkey⟩ := List.mem_map.mp hmem
    exact absurd hkey (Table.lookup_eq_none.mp hnew o' ho')
  · obtain ⟨o', hlookup, -, -, hyes, hno⟩ := hcancels.rows o ho
    rw [← htables] at hlookup
    have hiff : o ∈ cancelledBy db db' ↔ o.status ≠ .cancelled ∧ o'.status = .cancelled := by
      simp [cancelledBy, ho, hlookup]
    rw [hiff]
    constructor
    · rintro ⟨hbefore, hafter⟩
      by_contra hnot
      exact hbefore ((hno hnot).symm.trans hafter)
    · intro hexposed
      exact ⟨isExposed_open hexposed, hyes hexposed⟩

theorem only_replaceable_cancelled_iff (message : InboundMessage) (db : Database)
    (h : Places message db) :
    (∀ o ∈ cancelledBy db ((processInboundMessage message).run db).2, isReplaceable o = true) ↔
      ∀ o ∈ db.orders, isExposed message db o → isReplaceable o = true := by
  have hcancels := placed_cancels h
  constructor
  · intro hall o ho hexposed
    exact hall o ((hcancels o ho).mpr hexposed)
  · intro hall o hcancelled
    have ho : o ∈ db.orders := (List.mem_filter.mp hcancelled).1
    exact hall o ho ((hcancels o ho).mp hcancelled)

def coffee : CartItem where
  menuItemId := 7
  name := "Coffee"
  breakdown := ⟨3000, 0, 0, 3000, 1, 3000⟩
  selectedOptions := []
  addOns := []
  specialInstructions := none

def confirming : ConversationSession where
  businessId := 1
  customerId := 3
  state := .confirmingOrder
  context :=
    { draft :=
        { cart := [coffee], orderMode := some .pickup, phoneNumber := some "0821234567"
          orderNotesAsked := true } }
  lastActivityAt := 90
  expiresAt := none

def priorOrder (source : OrderSource) (status : OrderStatus) (paymentStatus : PaymentStatus) :
    Order where
  id := 5
  businessId := 1
  customerId := some 3
  orderNumber := "BO-000001"
  status := status
  paymentStatus := paymentStatus
  orderMode := .pickup
  source := source
  subtotalCents := 3000
  deliveryFeeCents := 0
  totalCents := 3000
  currency := "ZAR"

def cafe (prior : Order) : Tables where
  businesses := [{ id := 1, whatsappPhoneNumberId := some "100", orderNumberSequence := 1 }]
  customers :=
    [{ id := 3, businessId := 1, waId := some "27821234567", displayName := some "Thandi"
       phoneNumber := some "27821234567" }]
  orders := [prior]
  conversationSessions := [confirming]

def afterTillSale : Database where
  toTables := cafe (priorOrder .pos .accepted .paid)
  now := 100
  valid := Tables.violation_eq_none.mp (by decide +kernel)

def afterBotOrder : Database where
  toTables := cafe (priorOrder .whatsapp .new .pending)
  now := 100
  valid := Tables.violation_eq_none.mp (by decide +kernel)

def yes : InboundMessage where
  phoneNumberId := "100"
  waMessageId := "wamid.1"
  waId := "27821234567"
  contactName := none
  newCustomerId := 20
  newOrderId := 21
  messagesAllowed := true
  ordersAllowed := true
  closedOn := none
  reading :=
    { text := "yes", intent := some .orderConfirm, confirms := true, negates := false
      confirmedMode := none, chosenMode := none, payment := none, name := none
      phoneLine := none, phoneDigits := none, note := none, chat := fun _ _ => none }

theorem bot_order_replaced : cancelledBy afterBotOrder
      ((processInboundMessage yes).run afterBotOrder).2 = afterBotOrder.orders ∧
    ∀ o ∈ cancelledBy afterBotOrder ((processInboundMessage yes).run afterBotOrder).2,
      isReplaceable o = true := by
  have hplaces : Places yes afterBotOrder := by decide +kernel
  have hreplaceable : ∀ o ∈ afterBotOrder.orders, isReplaceable o = true := by decide +kernel
  constructor
  · decide +kernel
  · exact (only_replaceable_cancelled_iff yes afterBotOrder hplaces).mpr
      fun o ho _ => hreplaceable o ho

theorem till_sale_cancelled :
    ¬ ∀ (message : InboundMessage) (db : Database), Places message db →
      ∀ o ∈ cancelledBy db ((processInboundMessage message).run db).2, isReplaceable o = true := by
  intro h
  have hall := h yes afterTillSale (by decide +kernel)
  revert hall
  decide +kernel

end NextgenBackend.PriorOrders
