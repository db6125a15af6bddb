import NextgenBackend.Orders.System

namespace NextgenBackend.Orders

open Txn Inventory

open RoutesPayments (addOrderEvent)

-- What goes with a change of an order's status: its event, and the stock a cancellation returns.
def noted (event : OrderEvent) (movements : List StockMovement) : Pending :=
  appendMovements movements ∘ addOrderEvent event

def Returns (event : OrderEvent) (movements : List StockMovement) : Prop :=
  ∀ m ∈ movements, m.movementType = .saleReversal ∧ m.sourceId = some event.orderId ∧
    event.newStatus = .cancelled

def moveOf (event : OrderEvent) (applied : Bool) : StatusMove where
  orderId := event.orderId
  before := event.oldStatus
  after := event.newStatus
  applied := applied

structure Reaches (status : OrderStatus) (set : Order → Order) : Prop where
  key : ∀ o, key (set o) = key o
  status : ∀ o, (set o).status = status

inductive Moves : List StatusMove → Pending → Prop
  | nil : Moves [] id
  | applied {event movements set} : Reaches event.newStatus set → Returns event movements →
      Moves [moveOf event true] (noted event movements ∘ setOrder event.orderId set)
  | stray {event movements} : Returns event movements →
      Moves [moveOf event false] (noted event movements)
  | append {moves moves' f g} : Moves moves f → Moves moves' g → Moves (moves ++ moves') (g ∘ f)

def isMoved (moves : List StatusMove) (orderId : Uuid) : Bool :=
  moves.any fun move => move.applied && move.orderId = orderId

section Moved

variable {moves moves' : List StatusMove} {f : Pending} {t : Tables} {status : OrderStatus}
  {orderId : Uuid}

theorem isMoved_append :
    isMoved (moves ++ moves') orderId = (isMoved moves orderId || isMoved moves' orderId) :=
  List.any_append

theorem noted_orders {event : OrderEvent} {movements : List StockMovement} :
    (noted event movements t).orders = t.orders := rfl

theorem moves_keys (h : Moves moves f) : (f t).orders.map key = t.orders.map key := by
  induction h generalizing t with
  | nil => rfl
  | applied hset _ => exact Table.map_key_modify hset.key
  | stray => rfl
  | append _ _ ihf ihg => exact ihg.trans ihf

theorem moves_status (h : Moves moves f) (hall : ∀ move ∈ moves, move.after = status)
    {o : Order} (ho : t.orders.lookup orderId = some o) :
    ∃ o', (f t).orders.lookup orderId = some o' ∧
      o'.status = if isMoved moves orderId then status else o.status := by
  induction h generalizing t o with
  | nil => exact ⟨o, ho, by simp [isMoved]⟩
  | @applied event movements set hset _ =>
      have hafter : event.newStatus = status := hall (moveOf event true) (by simp)
      have hlookup : ((noted event movements ∘ setOrder event.orderId set) t).orders.lookup orderId =
          if orderId = event.orderId then (t.orders.lookup event.orderId).map set
          else t.orders.lookup orderId := Table.lookup_modify hset.key
      by_cases horder : orderId = event.orderId
      · subst horder
        refine ⟨set o, ?_, ?_⟩
        · rw [hlookup, if_pos rfl, ho]
          rfl
        · simp [isMoved, moveOf, hset.status, hafter]
      · refine ⟨o, ?_, ?_⟩
        · rw [hlookup, if_neg horder, ho]
        · simp [isMoved, moveOf, Ne.symm horder]
  | stray => exact ⟨o, ho, by simp [isMoved, moveOf]⟩
  | append _ _ ihf ihg =>
      obtain ⟨o₁, ho₁, hstatus₁⟩ := ihf (fun m hm => hall m (List.mem_append_left _ hm)) ho
      obtain ⟨o₂, ho₂, hstatus₂⟩ := ihg (fun m hm => hall m (List.mem_append_right _ hm)) ho₁
      refine ⟨o₂, ho₂, ?_⟩
      rw [hstatus₂, hstatus₁, isMoved_append]
      cases isMoved _ orderId <;> cases isMoved _ orderId <;> rfl

theorem moves_spare (h : Moves moves f) (hnot : isMoved moves orderId = false) :
    (f t).orders.lookup orderId = t.orders.lookup orderId := by
  induction h generalizing t with
  | nil => rfl
  | @applied event movements set hset _ =>
      have hne : orderId ≠ event.orderId := by
        simpa [isMoved, moveOf, eq_comm] using hnot
      exact Table.lookup_modify_ne hset.key hne
  | stray => rfl
  | append _ _ ihf ihg =>
      simp only [isMoved_append, Bool.or_eq_false_iff] at hnot
      exact (ihg hnot.2).trans (ihf hnot.1)

end Moved

def Advances (session : Session) (moves : List StatusMove) (session' : Session) : Prop :=
  ∃ f, Moves moves f ∧ session'.pending = f ∘ session.pending

def Quiet (f : Pending) : Prop :=
  ∀ t, (f t).orders = t.orders ∧ (f t).orderEvents = t.orderEvents ∧
    (f t).stockMovements = t.stockMovements

theorem quiet_neutral : Neutral Quiet where
  id _ := ⟨rfl, rfl, rfl⟩
  comp f _ hf hg t := ⟨(hg (f t)).1.trans (hf t).1, (hg (f t)).2.1.trans (hf t).2.1,
    (hg (f t)).2.2.trans (hf t).2.2⟩

section Restocking

variable {session : Session} {event : OrderEvent} {businessId : Uuid}

def Restocks (event : OrderEvent) (f : Pending) : Prop :=
  ∃ movements, Returns event movements ∧ f = appendMovements movements

theorem appendMovements_nil : appendMovements [] = id := by
  funext t
  simp [appendMovements]

theorem noted_nil : noted event [] = addOrderEvent event := by
  rw [noted, appendMovements_nil]
  rfl

theorem restocks_neutral : Neutral (Restocks event) where
  id := ⟨[], by simp [Returns], appendMovements_nil.symm⟩
  comp := by
    rintro _ _ ⟨first, hfirst, rfl⟩ ⟨second, hsecond, rfl⟩
    refine ⟨first ++ second, ?_, ?_⟩
    · intro m hm
      rcases List.mem_append.mp hm with h | h
      · exact hfirst m h
      · exact hsecond m h
    · funext t
      simp [appendMovements]

theorem reverseConsumptionOnCancel_restocks {inventoryEnabled : Bool} {orderId : Uuid}
    {previous : OrderStatus} {userId : Option Uuid} (horder : event.orderId = orderId)
    (hcancelled : event.newStatus = .cancelled) :
    (reverseConsumptionOnCancel session businessId inventoryEnabled orderId previous
      userId).ReadOnly (session.Extends (Restocks event)) := by
  apply reverseConsumptionOnCancel_stages restocks_neutral
  intro _ now originals already
  refine ⟨_, ?_, rfl⟩
  intro m hm
  obtain ⟨original, -, -, rfl⟩ := mem_reversals hm
  exact ⟨rfl, congrArg some horder.symm, hcancelled⟩

end Restocking

section Staff

variable {S : CommitSite → Pending → Prop} {user : AuthUser} {orderId : Uuid}

def staffEvent (user : AuthUser) (orderId : Uuid) (reason : Option String) (before after : OrderStatus) :
    OrderEvent where
  orderId := orderId
  businessId := user.businessId
  oldStatus := some before
  newStatus := after
  changedByUserId := some user.userId
  reason := reason

def recordLink (order : Order) (url : String) (o : Order) : Order :=
  { o with
    paymentLinkUrl := RoutesOrders.assign order.paymentLinkUrl (some url) o.paymentLinkUrl }

theorem storePaymentLink_commits {order : Order} {link : Option String}
    (hlink : ∀ url, S (.storePaymentLink order.id) (setOrder order.id (recordLink order url))) :
    Commits S (RoutesOrders.storePaymentLink order link) := by
  apply commits_seq readOnly_read
  intro business _
  dsimp only
  split
  next provider url _ =>
    apply commits_bind
    · exact commits_commit (hlink url)
    · intro _
      exact commits_readOnly readOnly_refreshOrder
  next => exact commits_done order

theorem updateOrderStatus_commits {body : RoutesOrders.StatusUpdateRequest} {link : Option String}
    (hmove : ∀ loaded requested now movements, OrderStatus.ofValue body.status = some requested →
      requested ∈ orderStatusTransitions loaded.status →
      Returns (staffEvent user orderId body.reason loaded.status requested) movements →
      S (.updateOrderStatus ⟨orderId, some loaded.status, requested, true⟩
          (RoutesOrders.recordsPending requested loaded))
        (noted (staffEvent user orderId body.reason loaded.status requested) movements ∘
          setOrder orderId (RoutesOrders.recordStatus user.userId body requested loaded now)))
    (hlink : ∀ order url, S (.storePaymentLink order.id)
      (setOrder order.id (recordLink order url))) :
    Commits S (RoutesOrders.updateOrderStatus user orderId body link) := by
  apply commits_seq readOnly_requireStaffOrAbove
  intro _ _
  apply commits_seq RoutesOrders.readOnly_loadOrder
  intro loaded _
  apply commits_seq (conforms_orFail fun requested h => h)
  intro requested hrequested
  have hchecked : (RoutesOrders.checkTransition requested loaded).ReadOnly fun _ =>
      requested ∈ orderStatusTransitions loaded.status :=
    conforms_bind ensure_ok fun _ hedge => Conforms.mono ensure_ok (fun _ _ _ => id) fun _ _ => hedge
  apply commits_seq hchecked
  intro _ hedge
  apply commits_seq readOnly_readNow
  intro now _
  apply commits_seq (R := Session.Extends (Restocks (staffEvent user orderId body.reason
    loaded.status requested)) (Session.stage {} [.order orderId]
      (setOrder orderId (RoutesOrders.recordStatus user.userId body requested loaded now))))
  · unfold Session.stageWhen
    split
    next hcancelled =>
      apply readOnly_seq readOnly_read
      intro inventoryEnabled
      exact reverseConsumptionOnCancel_restocks rfl hcancelled
    next => exact restocks_neutral.refl
  rintro session ⟨_, ⟨movements, hreturns, rfl⟩, hpending⟩
  have hsaved := hmove loaded requested now movements hrequested hedge hreturns
  apply commits_bind
  · apply commits_commit
    simp only [Session.stage, hpending]
    exact hsaved
  intro _
  apply commits_seq readOnly_refreshOrder
  intro order _
  split
  · apply commits_bind
    · exact commits_attempt (storePaymentLink_commits (hlink order))
    · exact fun _ => commits_done _
  · exact commits_done order

def feeEvent (user : AuthUser) (orderId : Uuid) (fee : Cents) : OrderEvent where
  orderId := orderId
  businessId := user.businessId
  oldStatus := some .pendingDeliveryFee
  newStatus := .feeSent
  changedByUserId := some user.userId
  reason := some (s!"Delivery fee set: {fee} cents")

theorem askFeeApproval_quiet {session : Session} {order : Order} {fee : Cents} :
    (RoutesOrders.askFeeApproval session order fee).ReadOnly fun asked =>
      session.Extends Quiet asked.1 := by
  unfold RoutesOrders.askFeeApproval
  split
  · exact quiet_neutral.refl
  · apply readOnly_seq readOnly_read
    intro conversation
    split
    · exact quiet_neutral.refl
    · exact Session.extends_stage fun _ => ⟨rfl, rfl, rfl⟩

theorem setDeliveryFee_commits {body : RoutesOrders.DeliveryFeeRequest}
    (hfee : ∀ loaded business offer f, Quiet f →
      S (.setDeliveryFee orderId loaded.amounts ⟨body.deliveryFeeCents,
          (RoutesOrders.deliveryTotals business loaded body.deliveryFeeCents).1,
          (RoutesOrders.deliveryTotals business loaded body.deliveryFeeCents).2⟩ offer)
        (f ∘ noted (feeEvent user orderId body.deliveryFeeCents) [] ∘
          setOrder orderId (RoutesOrders.recordDeliveryFee loaded body.deliveryFeeCents
            (RoutesOrders.deliveryTotals business loaded body.deliveryFeeCents)))) :
    Commits S (RoutesOrders.setDeliveryFee user orderId body) := by
  apply commits_seq readOnly_requireStaffOrAbove
  intro _ _
  apply commits_seq RoutesOrders.readOnly_loadOrder
  intro loaded _
  apply commits_seq ensure_ok
  intro _ _
  apply commits_seq readOnly_loadBusiness
  intro business _
  dsimp only
  apply commits_seq readOnly_lock
  intro _ _
  apply commits_seq askFeeApproval_quiet
  rintro ⟨session, offer⟩ ⟨f, hquiet, hpending⟩
  apply commits_bind
  · apply commits_commit
    have hsaved := hfee loaded business offer f hquiet
    rw [noted_nil] at hsaved
    rw [hpending]
    exact hsaved
  · intro _
    exact commits_readOnly readOnly_refreshOrder

end Staff

theorem Advances.refl {session : Session} : Advances session [] session :=
  ⟨id, .nil, rfl⟩

theorem Advances.trans {session session' session'' : Session} {moves moves' : List StatusMove}
    (h : Advances session moves session') (h' : Advances session' moves' session'') :
    Advances session (moves ++ moves') session'' := by
  obtain ⟨f, hf, hpending⟩ := h
  obtain ⟨g, hg, hpending'⟩ := h'
  refine ⟨g ∘ f, .append hf hg, ?_⟩
  rw [hpending', hpending]
  rfl

-- The row is written, its event added, and then what the order took from stock is returned.
theorem advances_staged {session session' : Session} {event : OrderEvent} {set : Order → Order}
    {touched : List RowKey} (hset : Reaches event.newStatus set)
    (h : Session.Extends (Restocks event) ((session.stage touched (setOrder event.orderId set)).stage
      [] (addOrderEvent event)) session') : Advances session [moveOf event true] session' := by
  obtain ⟨_, ⟨movements, hreturns, rfl⟩, hpending⟩ := h
  exact ⟨_, .applied hset hreturns, hpending⟩

theorem advances_stray {session session' : Session} {event : OrderEvent}
    (h : Session.Extends (Restocks event) (session.stage [] (addOrderEvent event)) session') :
    Advances session [moveOf event false] session' := by
  obtain ⟨_, ⟨movements, hreturns, rfl⟩, hpending⟩ := h
  exact ⟨_, .stray hreturns, hpending⟩

section Jobs

variable {S : CommitSite → Pending → Prop} {set : Worker.CancelledRow → Order → Order}
  {rows : List Worker.CancelledRow} {session : Session}

theorem cancelRows_advances (hset : ∀ row, Reaches .cancelled (set row)) :
    (Worker.cancelRows set rows session).ReadOnly
      (Advances session (rows.map (·.move))) := by
  induction rows generalizing session with
  | nil => exact Advances.refl
  | cons row rows ih =>
      have hreturned {session : Session} : (reverseConsumptionOnCancel session row.order.businessId
          row.inventoryEnabled row.order.id row.order.status none).ReadOnly
            (session.Extends (Restocks row.event)) := reverseConsumptionOnCancel_restocks rfl rfl
      apply conforms_bind hreturned
      intro session' hs
      have hrow : Advances session [row.move] session' := advances_staged (hset row) hs
      exact Conforms.mono ih (fun _ _ _ => id) fun _ h => hrow.trans h

theorem cancelRows_commits {site : List StatusMove → CommitSite}
    (hset : ∀ row, Reaches .cancelled (set row))
    (hrows : ∀ moves f, Moves moves f → (∀ move ∈ moves, move.after = .cancelled) →
      S (site moves) f) :
    Commits S ((Worker.cancelRows set rows {}).bind fun session =>
      commit (site (rows.map (·.move))) session) := by
  apply commits_seq (cancelRows_advances hset)
  rintro session ⟨f, hf, hpending⟩
  apply commits_commit
  rw [hpending]
  apply hrows _ f hf
  simp [Worker.CancelledRow.move]

theorem runJob_commits {job : Handler Unit} (h : Commits S job) : Commits S (Worker.runJob job) := by
  apply commits_bind
  · exact commits_attempt h
  · intro _
    exact commits_done ()

theorem cancelStaleDeliveryFeeOrders_commits
    (hrows : ∀ moves f, Moves moves f → (∀ move ∈ moves, move.after = .cancelled) →
      S (.cancelStaleDeliveryFeeOrders moves) f) :
    Commits S Worker.cancelStaleDeliveryFeeOrders := by
  have hset (row : Worker.CancelledRow) : Reaches .cancelled (Worker.cancelStaleOrder row) :=
    ⟨fun _ => rfl, fun _ => rfl⟩
  apply commits_seq readOnly_readNow
  intro now _
  apply commits_seq readOnly_read
  intro rows _
  split
  · exact commits_done ()
  · exact cancelRows_commits hset hrows

theorem cancelUnpaidOrders_commits
    (hrows : ∀ moves f, Moves moves f → (∀ move ∈ moves, move.after = .cancelled) →
      S (.cancelUnpaidOrders moves) f) :
    Commits S Worker.cancelUnpaidOrders := by
  have hset (row : Worker.CancelledRow) : Reaches .cancelled (Worker.cancelUnpaidOrder row) :=
    ⟨fun _ => rfl, fun _ => rfl⟩
  apply commits_seq readOnly_read
  intro all _
  apply commits_seq readOnly_readNow
  intro now _
  dsimp only
  split
  · exact commits_done ()
  · exact cancelRows_commits hset hrows

end Jobs

section Messages

open NextgenBackend.Bot

variable {S : CommitSite → Pending → Prop} {message : InboundMessage} {business : Business}
  {customer : Customer} {session : Session}

theorem advances_updated {session session' : Session} {event : OrderEvent} {set : Order → Order}
    {updated : Session × Bool} (hset : Reaches event.newStatus set)
    (hupdated : updated.1 = if updated.2 then
      session.stage [.order event.orderId] (setOrder event.orderId set) else session)
    (h : Session.Extends (Restocks event) (updated.1.stage [] (addOrderEvent event)) session') :
    Advances session [moveOf event updated.2] session' := by
  rw [hupdated] at h
  cases hfound : updated.2 with
  | true =>
      rw [hfound] at h
      exact advances_staged hset h
  | false =>
      rw [hfound] at h
      exact advances_stray h

theorem readOnly_view {α : Type} {q : Tables → α} : (view session q).ReadOnly fun _ => True :=
  fun _ => trivial

theorem updateOrder_ok {orderId : Uuid} {condition : Order → Bool} {set : Order → Order} :
    (updateOrder session orderId condition set).ReadOnly fun updated =>
      updated.1 = if updated.2 then session.stage [.order orderId] (setOrder orderId set)
        else session := by
  unfold updateOrder
  apply readOnly_seq readOnly_view
  intro found
  split
  · rfl
  · apply readOnly_seq readOnly_lock
    intro locked
    split
    · rfl
    · rfl

theorem reverseIfFound_restocks (event : OrderEvent) {orderId : Uuid}
    {previous : Option OrderStatus} (horder : event.orderId = orderId)
    (hcancelled : event.newStatus = .cancelled) :
    (reverseIfFound session business orderId previous).ReadOnly
      (session.Extends (Restocks event)) := by
  unfold reverseIfFound
  split
  · exact restocks_neutral.refl
  · exact reverseConsumptionOnCancel_restocks horder hcancelled

def Cancelling (session : Session) (written : Session × List StatusMove) : Prop :=
  Advances session written.2 written.1 ∧ ∀ move ∈ written.2, move.after = .cancelled

theorem cancelSupersededOrder_cancelling {superseded : Option Uuid} :
    (cancelSupersededOrder session business superseded).ReadOnly (Cancelling session) := by
  unfold cancelSupersededOrder
  split
  · exact ⟨Advances.refl, by simp⟩
  next orderId =>
    apply readOnly_seq readOnly_view
    intro previous
    apply conforms_bind updateOrder_ok
    rintro updated hupdated
    have hset : Reaches .cancelled (cancelWith "Superseded by customer modification") :=
      ⟨fun _ => rfl, fun _ => rfl⟩
    apply conforms_bind (reverseIfFound_restocks (statusEvent orderId business.id none .cancelled
      "Superseded by customer modification") rfl rfl)
    intro session' hs
    constructor
    · exact advances_updated hset hupdated hs
    · simp

theorem cancelOldOrders_advances {orders : List Order} :
    (cancelOldOrders business orders session).ReadOnly
      (Advances session (orders.map fun o => ⟨o.id, none, .cancelled, true⟩)) := by
  induction orders generalizing session with
  | nil => exact Advances.refl
  | cons old orders ih =>
      have hset : Reaches .cancelled fun o : Order => { o with status := .cancelled } :=
        ⟨fun _ => rfl, fun _ => rfl⟩
      have hreturned {session : Session} : (reverseConsumptionOnCancel session business.id
          business.inventoryEnabled old.id old.status none).ReadOnly
            (session.Extends (Restocks (statusEvent old.id business.id none .cancelled
              "Superseded by new customer order"))) := reverseConsumptionOnCancel_restocks rfl rfl
      apply conforms_bind hreturned
      intro session' hs
      have hold : Advances session [⟨old.id, none, .cancelled, true⟩] session' :=
        advances_staged hset hs
      exact Conforms.mono ih (fun _ _ _ => id) fun _ h => hold.trans h

theorem cancelPriorLiveOrders_cancelling {excludeOrderId : Uuid} :
    (cancelPriorLiveOrders session business customer excludeOrderId).ReadOnly fun written =>
      Cancelling session written ∧ ∀ move ∈ written.2, move.orderId ≠ excludeOrderId := by
  have hold : (view session (liveOrdersOf business.id customer.id excludeOrderId)).ReadOnly
      fun old => ∀ o ∈ old, o.id ≠ excludeOrderId := by
    intro db o ho
    have hlive := (List.mem_filter.mp ho).2
    simp only [decide_eq_true_eq] at hlive
    exact hlive.2.2.1
  apply conforms_bind hold
  intro old hexcluded
  apply conforms_bind cancelOldOrders_advances
  intro session' hs
  apply readOnly_seq readOnly_lockOrders
  intro _
  refine ⟨⟨hs, ?_⟩, ?_⟩
  · simp
  · simpa using hexcluded

def Sells (movements : List StockMovement) : Prop :=
  ∀ m ∈ movements, m.movementType ≠ .saleReversal

def placing (order : Order) (items : List OrderItem) (movements : List StockMovement) : Pending :=
  appendMovements movements ∘ RoutesPos.insertOrderRows items (creationEvent order) [] ∘
    RoutesPos.insertOrder order

def Places (orderId : Uuid) (status : OrderStatus) (session session' : Session) : Prop :=
  ∃ order items movements f, order.id = orderId ∧ order.status = status ∧ Sells movements ∧
    Quiet f ∧ session'.pending = placing order items movements ∘ f ∘ session.pending

theorem postSaleConsumption_sells {businessId orderId : Uuid} {userId : Option Uuid}
    {specs : List LineItemSpec} {occurredAt : Instant} :
    (postSaleConsumption session businessId orderId userId specs occurredAt).ReadOnly
      fun session' => ∃ movements, Sells movements ∧
        session'.pending = appendMovements movements ∘ session.pending := by
  apply readOnly_seq readOnly_read
  intro recipes
  dsimp only
  split
  · exact ⟨[], by simp [Sells], by rw [appendMovements_nil]; rfl⟩
  · apply readOnly_seq readOnly_read
    intro ingredients
    refine ⟨_, ?_, rfl⟩
    intro m hm
    obtain ⟨line, -, rfl⟩ := List.mem_map.mp hm
    simp [buildMovement]

theorem createOrderFromCart_places {orderId : Uuid} {context : Context} {status : OrderStatus} :
    (createOrderFromCart session orderId business customer context status).ReadOnly
      (Places orderId status session) := by
  unfold createOrderFromCart
  dsimp only
  split
  · trivial
  · have hnumbered : (RoutesPos.nextOrderNumber business.id session).ReadOnly fun numbered =>
        session.Extends Quiet numbered.2.2 :=
      RoutesPos.nextOrderNumber_stages fun _ _ => ⟨rfl, rfl, rfl⟩
    apply conforms_bind hnumbered
    rintro ⟨sequence, currency, session'⟩ ⟨f, hquiet, hpending⟩
    apply readOnly_seq readOnly_readNow
    intro now
    dsimp only at hpending
    generalize horder : newOrder orderId business customer context status sequence now = order
    have hid : order.id = orderId := horder ▸ rfl
    have hstatus : order.status = status := horder ▸ rfl
    generalize (orderCart context).map (cartOrderItem order) = items
    unfold Session.stageWhen
    split
    · apply Conforms.mono postSaleConsumption_sells (fun _ _ _ => id)
      rintro session'' ⟨movements, hsells, hpending'⟩
      refine ⟨order, items, movements, f, hid, hstatus, hsells, hquiet, ?_⟩
      rw [hpending']
      simp only [Session.stage, hpending]
      rfl
    · refine ⟨order, items, [], f, hid, hstatus, by simp [Sells], hquiet, ?_⟩
      simp only [Session.stage, hpending, placing, appendMovements_nil]
      rfl

def rejectionEvent (orderId businessId : Uuid) : OrderEvent :=
  statusEvent orderId businessId (some .pendingDeliveryFee) .cancelled
    "Customer rejected delivery fee"

def approvalEvent (orderId businessId : Uuid) : OrderEvent :=
  statusEvent orderId businessId (some .feeSent) .new
    "Customer approved delivery fee and provided payment method"

inductive Turned (business : Business) (newOrderId : Uuid) :
    Option Effect → List StatusMove → Pending → Prop
  | silent : Turned business newOrderId none [] id
  | placed {superseded status context moves moves' f f' order items movements g} :
      Moves moves f → Moves moves' f' → (∀ move ∈ moves ++ moves', move.after = .cancelled) →
      (∀ move ∈ moves', move.orderId ≠ newOrderId) → order.id = newOrderId →
      order.status = status → Sells movements → Quiet g →
      Turned business newOrderId (some (.placeOrder superseded status context)) (moves ++ moves')
        (f' ∘ placing order items movements ∘ g ∘ f)
  | rejected {orderId move f} : Moves [move] f → move.after = .cancelled →
      Turned business newOrderId (some (.rejectDeliveryFee orderId)) [move] f
  | finalized {orderId fee payment} :
      Turned business newOrderId (some (.finalizeDelivery orderId fee payment))
        [moveOf (approvalEvent orderId business.id) true]
        (noted (approvalEvent orderId business.id) [] ∘
          setOrder orderId (finalizeWith business fee payment))
  | missed {orderId fee payment} :
      Turned business newOrderId (some (.finalizeDelivery orderId fee payment))
        [moveOf (approvalEvent orderId business.id) false]
        (noted (approvalEvent orderId business.id) [])

def Turns (business : Business) (newOrderId : Uuid) (effect : Option Effect) (session : Session)
    (written : Session × List StatusMove) : Prop :=
  ∃ f, Turned business newOrderId effect written.2 f ∧ written.1.pending = f ∘ session.pending

theorem placeOrder_turns {superseded : Option Uuid} {status : OrderStatus} {context : Context} :
    (placeOrder session message business customer superseded status context).ReadOnly
      (Turns business message.newOrderId (some (.placeOrder superseded status context)) session) := by
  unfold placeOrder
  apply conforms_bind cancelSupersededOrder_cancelling
  rintro ⟨session₁, moves⟩ ⟨⟨f, hf, hpending₁⟩, hmoves⟩
  apply conforms_bind createOrderFromCart_places
  rintro session₂ ⟨order, items, movements, g, hid, hstatus, hsells, hquiet, hpending₂⟩
  apply conforms_bind cancelPriorLiveOrders_cancelling
  rintro ⟨session₃, moves'⟩ ⟨⟨⟨f', hf', hpending₃⟩, hmoves'⟩, hother⟩
  have hcancelled : ∀ move ∈ moves ++ moves', move.after = .cancelled := by
    intro move hmove
    rcases List.mem_append.mp hmove with h | h
    · exact hmoves move h
    · exact hmoves' move h
  refine ⟨f' ∘ placing order items movements ∘ g ∘ f,
    .placed hf hf' hcancelled hother hid hstatus hsells hquiet, ?_⟩
  simp only at hpending₁ hpending₃
  rw [hpending₃, hpending₂, hpending₁]
  rfl

theorem rejectDeliveryFee_turns {orderId : Uuid} :
    (rejectDeliveryFee session business orderId).ReadOnly
      (Turns business message.newOrderId (some (.rejectDeliveryFee orderId)) session) := by
  have hset : Reaches .cancelled (cancelWith "Customer rejected delivery fee") :=
    ⟨fun _ => rfl, fun _ => rfl⟩
  unfold rejectDeliveryFee
  apply readOnly_seq readOnly_view
  intro previous
  apply conforms_bind updateOrder_ok
  rintro updated hupdated
  apply conforms_bind (reverseIfFound_restocks (rejectionEvent orderId business.id) rfl rfl)
  intro session' hs
  obtain ⟨f, hf, hpending⟩ := advances_updated hset hupdated hs
  exact ⟨f, .rejected hf rfl, hpending⟩

theorem finalizeDelivery_turns {orderId : Uuid} {fee : Cents} {payment : Option ChosenPayment} :
    (finalizeDelivery session business orderId fee payment).ReadOnly (Turns business
      message.newOrderId (some (.finalizeDelivery orderId fee payment)) session) := by
  unfold finalizeDelivery
  apply conforms_bind updateOrder_ok
  rintro ⟨session', updated⟩ hupdated
  have hsession : session' = if updated then session.stage [.order orderId]
      (setOrder orderId (finalizeWith business fee payment)) else session := hupdated
  cases updated with
  | true =>
      refine ⟨_, .finalized, ?_⟩
      rw [hsession, noted_nil]
      rfl
  | false =>
      refine ⟨_, .missed, ?_⟩
      rw [hsession, noted_nil]
      rfl

theorem perform_turns {turn : Turn} :
    (perform session message business turn).ReadOnly
      (Turns business message.newOrderId turn.effect session) := by
  unfold perform
  split
  next heffect => exact ⟨id, heffect ▸ .silent, rfl⟩
  next heffect => exact heffect ▸ placeOrder_turns
  next heffect => exact heffect ▸ rejectDeliveryFee_turns
  next heffect => exact heffect ▸ finalizeDelivery_turns

def Served (message : InboundMessage) (turn : Option MessageTurn) (f : Pending) : Prop :=
  match turn with
  | none => Quiet f
  | some served => ∃ business effect context h g h',
      Turned business message.newOrderId effect served.moves g ∧
        (∀ e ∈ effect, Effect.Fits context e) ∧ served.finalized = finalizedBy effect ∧
          Quiet h ∧ Quiet h' ∧ f = h' ∘ g ∘ h

theorem quiet_of_extends {session session' : Session} {f : Pending} (hf : Quiet f)
    (hpending : session.pending = f) (h : Session.Extends Quiet session session') :
    Quiet session'.pending := by
  obtain ⟨g, hg, hpending'⟩ := h
  rw [hpending', hpending]
  exact quiet_neutral.comp f g hf hg

theorem getOrCreateSession_quiet {businessId customerId : Uuid} :
    (getOrCreateSession session businessId customerId).ReadOnly fun resumed =>
      session.Extends Quiet resumed.2 := by
  apply readOnly_seq readOnly_readNow
  intro now
  apply readOnly_seq readOnly_lock
  intro row
  split
  · exact quiet_neutral.refl
  · exact Session.extends_stage fun _ => ⟨rfl, rfl, rfl⟩

theorem converse_served {loaded : Customer} (hquiet : Quiet session.pending) :
    (converse session message business loaded customer).ReadOnly fun processed =>
      Served message processed.turn processed.session.pending := by
  apply conforms_bind getOrCreateSession_quiet
  rintro ⟨conversation, session'⟩ hresumed
  have hstart := quiet_of_extends hquiet rfl hresumed
  apply readOnly_seq readOnly_lock
  intro _
  apply readOnly_seq readOnly_read
  intro lastOrder
  dsimp only
  generalize (⟨conversation.lastActivityAt, business, customer, lastOrder⟩ : Surroundings) =
    surroundings
  have hfits : Turn.Fits { customer := surroundings.customer, conversation := conversation }
      (takeTurn message surroundings conversation) := takeTurn_fits
  generalize takeTurn message surroundings conversation = turn at hfits
  apply conforms_bind perform_turns
  rintro ⟨session'', moves⟩ ⟨g, hturned, hpending⟩
  have hkept : Quiet (setCustomer customer.id (writeCustomer loaded turn.customer) ∘
      setConversation business.id customer.id (writeConversation turn.conversation)) :=
    fun _ => ⟨rfl, rfl, rfl⟩
  refine ⟨business, turn.effect, _, session'.pending, g, _, hturned, hfits.effect, rfl, hstart,
    hkept, ?_⟩
  simp only [Session.stage]
  rw [show session''.pending = g ∘ session'.pending from hpending]
  rfl

theorem getOrCreateCustomer_quiet {businessId : Uuid} :
    (getOrCreateCustomer businessId message).ReadOnly fun known => Quiet known.2.pending := by
  have hempty : Quiet ({} : Session).pending := quiet_neutral.id
  apply readOnly_seq readOnly_read
  intro known
  split
  · exact hempty
  · apply readOnly_seq readOnly_lock
    intro inserted
    split
    · exact hempty
    · exact fun _ => ⟨rfl, rfl, rfl⟩

theorem processInboundMessage_commits
    (hserved : ∀ turn f, Served message turn f → S (.processMessage message.waMessageId turn) f) :
    Commits S (processInboundMessage message) := by
  have hprocess : (process message).ReadOnly fun processed =>
      Served message processed.turn processed.session.pending := by
    have hkeep {session : Session} {customer : Customer} {set : Customer → Customer}
        (h : Quiet session.pending) :
        Quiet (session.stage [.customer customer.id] (setCustomer customer.id set)).pending :=
      fun t => h t
    apply readOnly_seq readOnly_read
    intro receiver
    split
    · exact quiet_neutral.id
    next business =>
      split
      · exact quiet_neutral.id
      · apply conforms_bind getOrCreateCustomer_quiet
        rintro ⟨loaded, session⟩ hknown
        apply readOnly_seq readOnly_readNow
        intro now
        apply readOnly_seq readOnly_lock
        intro taken
        split
        · exact hkeep hknown
        · have hreserved : Quiet (session.stage [] (insertMessage (reservation business.id
              (greetCustomer now message.contactName loaded).id message))).pending :=
            fun t => hknown t
          dsimp only
          split
          · exact hkeep hreserved
          · split
            · exact hkeep fun t => hreserved t
            · split
              · exact hkeep fun t => hreserved t
              · exact converse_served fun t => hreserved t
  have hattempted : (process message).attempt.ReadOnly fun attempted => ∀ processed,
      attempted = .ok processed → Served message processed.turn processed.session.pending := by
    apply conforms_attempt hprocess
    · rintro processed h _ ⟨⟩
      exact h
    · rintro e _ ⟨⟩
  apply commits_seq hattempted
  rintro attempted hattempted
  split
  · trivial
  next processed =>
    apply commits_bind
    · exact conforms_tryCommit ⟨_, hserved _ _ (hattempted processed rfl), rfl⟩ fun _ => trivial
    · intro _
      exact commits_done ()

end Messages

end NextgenBackend.Orders
