import NextgenBackend.Inventory.ReversalBalance

namespace NextgenBackend.PaymentGate

open Txn Inventory Orders ReversalBalance

open RoutesPayments (addOrderEvent)

def awaitsMoney (o : Order) : Bool :=
  o.paymentRequired && (o.paymentStatus = .unpaid || o.paymentStatus = .pending)

def Gated (o : Order) : Prop :=
  awaitsMoney o = true → o.status ∈ prePreparationStatuses ∨ o.status = .cancelled

inductive Writing : OrderRequest → Prop
  | updateOrderStatus {user id body link} : Writing (.updateOrderStatus user id body link)
  | updatePaymentStatus {user id body} : Writing (.stock (.api (.updatePaymentStatus user id body)))
  | webhook {request : Request} : request.Webhook → Writing (.stock (.api request))
  | cancelUnpaidOrders : Writing .cancelUnpaidOrders

-- An order as it is placed: nothing is cooked before its payment is due.
def isPlaced (o : Order) : Bool :=
  !o.paymentRequired || (o.status = .new || o.status = .pendingDeliveryFee)

-- Elsewhere orders are placed, and nothing else about their progress changes.
def Placing (db db' : Database) : Prop :=
  ∀ o' ∈ db'.orders, isPlaced o' = true ∨ ∃ o ∈ db.orders, o'.status = o.status ∧
    o'.paymentStatus = o.paymentStatus ∧ o'.paymentRequired = o.paymentRequired

abbrev NextWrite : Database → Orders.Event → Database → Prop :=
  Orders.Next Writing Placing

def accepts (user : AuthUser) (body : RoutesOrders.PaymentUpdateRequest) (o : Order) : Bool :=
  o.businessId = user.businessId && !RoutesOrders.isReversal body.paymentStatus &&
    (o.paymentStatus ≠ .paid || body.paymentStatus = .paid || user.role = .owner ||
      user.role = .manager)

def started (o : Order) : Bool :=
  o.status ∉ prePreparationStatuses && o.status ≠ .cancelled

def isOverdue (db : Database) (o : Order) : Bool :=
  Worker.awaitsPayment o &&
    o.createdAt + Worker.paymentTimeout o.businessId db.toTables * Time.minute ≤ db.now

def isRestored (o : Order) (db : Database) : Bool :=
  (originalsOf o.businessId o.id db.stockMovements).all fun s =>
    s.ingredientId ∈ reversedOf o.businessId o.id db.stockMovements

-- No accepted edit leaves an order that is already being prepared waiting for its payment, and a
-- business whose stock an overdue order still holds keeps its inventory.
def Meets (db : Database) : Orders.Event → Prop
  | .served (.stock (.api (.updatePaymentStatus user orderId body))) _ =>
      ∀ o ∈ db.orders.lookup orderId, accepts user body o = true → o.paymentRequired = true →
        started o = true → body.paymentStatus ≠ .unpaid ∧ body.paymentStatus ≠ .pending
  | .served .cancelUnpaidOrders _ => ∀ o ∈ db.orders, isOverdue db o = true →
      isRestored o db = true ∨ Worker.inventoryEnabled o.businessId db.toTables = true
  | _ => True

structure Restored (o : Order) (db db' : Database) : Prop where
  posts : ∃ posted, db'.stockMovements = db.stockMovements ++ posted ∧
    Reverses o.businessId o.id db.stockMovements posted
  covers : ∀ s ∈ originalsOf o.businessId o.id db.stockMovements,
    s.ingredientId ∈ reversedOf o.businessId o.id db'.stockMovements

structure GateHolds (db : Database) (steps : List (Orders.Event × Database)) : Prop where
  gated : ∀ o ∈ (Run.last db steps).orders, Gated o
  cancelled : ∀ taken reply db',
    taken ++ [(.served .cancelUnpaidOrders reply, db')] <+: steps →
      ∀ o ∈ cancelledBy (Run.last db taken) db',
        o.status ∈ prePreparationStatuses ∧ Restored o (Run.last db taken) db'

section Gates

variable {t : Tables} {session session' : Session} {db : Database}

theorem isPlaced_gated {o : Order} (h : isPlaced o = true) : Gated o := by
  intro hawaits
  simp [awaitsMoney] at hawaits
  simp [isPlaced, hawaits.1] at h
  left
  rcases h with hstatus | hstatus
  · simp [prePreparationStatuses, hstatus]
  · simp [prePreparationStatuses, hstatus]

theorem gated_of_same {o o' : Order} (h : Gated o) (hstatus : o'.status = o.status)
    (hpayment : o'.paymentStatus = o.paymentStatus)
    (hrequired : o'.paymentRequired = o.paymentRequired) : Gated o' := by
  unfold Gated awaitsMoney at h ⊢
  rw [hstatus, hpayment, hrequired]
  exact h

theorem gated_of_settled {o : Order} (h : o.paymentStatus ≠ .unpaid ∧ o.paymentStatus ≠ .pending) :
    Gated o := by
  intro hawaits
  simp [awaitsMoney, h] at hawaits

def AllGated (t : Tables) : Prop :=
  ∀ o ∈ t.orders, Gated o

def KeepsGate (f : Pending) : Prop :=
  ∀ t, AllGated t → AllGated (f t)

theorem keepsGate_neutral : Neutral KeepsGate :=
  preserves_neutral

theorem keepsGate_of_same {f : Pending} (h : ∀ t, (f t).orders = t.orders) : KeepsGate f := by
  intro t hall o ho
  rw [h t] at ho
  exact hall o ho

theorem keepsGate_setOrder {orderId : Uuid} {set : Order → Order}
    (hset : ∀ o, Gated o → Gated (set o)) : KeepsGate (setOrder orderId set) := by
  intro t hall o ho
  obtain ⟨o₀, ho₀, rfl | rfl⟩ := Table.mem_modify ho
  · exact hall _ ho₀
  · exact hset _ (hall _ ho₀)

theorem gate_of_writes {α : Type} {sites : CommitSite → Prop} {x : Handler α}
    (h : Writes sites KeepsGate x) (hall : AllGated db.toTables) :
    AllGated (x.run db).2.toTables :=
  preserves_run (I := AllGated) h hall

theorem webhook_gate {request : Request} (hwebhook : request.Webhook) {f : Pending}
    (h : Stages request f) : KeepsGate f := by
  cases h with
  | payOrder =>
      apply keepsGate_setOrder
      intro o _
      apply gated_of_settled
      simp [RoutesPayments.paidByWebhook]
  | payEvent => exact keepsGate_of_same fun _ => rfl
  | payAward => exact keepsGate_of_same fun _ => rfl
  | expireIntent => exact keepsGate_of_same fun _ => rfl
  | payIntent => exact keepsGate_of_same fun _ => rfl
  | _ => cases hwebhook

theorem updatePaymentStatus_accepts {user : AuthUser} {orderId : Uuid}
    {body : RoutesOrders.PaymentUpdateRequest} :
    (RoutesOrders.updatePaymentStatus user orderId body).Ensures db fun _ db' => db' = db ∨
      ∃ o, db.orders.lookup orderId = some o ∧ accepts user body o = true := by
  apply ensures_seq readOnly_requireStaffOrAbove.yields _ fun _ => .inl rfl
  intro _ _
  apply ensures_seq loadOrder_yields _ fun _ => .inl rfl
  rintro o ⟨hlookup, hbusiness⟩
  apply ensures_seq ensure_ok.yields _ fun _ => .inl rfl
  intro _ hforward
  apply ensures_seq ensure_ok.yields _ fun _ => .inl rfl
  intro _ hrole
  right
  refine ⟨o, hlookup, ?_⟩
  by_cases hpaid : body.paymentStatus = .paid
  · simp [accepts, hbusiness, hpaid, RoutesOrders.isReversal]
  · have hrole : o.paymentStatus ≠ .paid ∨ user.role = .owner ∨ user.role = .manager := by
      by_contra hnot
      push Not at hnot
      exact hrole ⟨hnot.1, hpaid, fun h => h.elim hnot.2.1 hnot.2.2⟩
    simp only [accepts, hbusiness, hforward, decide_true, Bool.true_and]
    rcases hrole with h | h | h
    · simp [h]
    · simp [h]
    · simp [h]

theorem updatePaymentStatus_gate {user : AuthUser} {orderId : Uuid}
    {body : RoutesOrders.PaymentUpdateRequest} (hall : AllGated db.toTables)
    (hmeets : ∀ o ∈ db.orders.lookup orderId, accepts user body o = true →
      o.paymentRequired = true → started o = true →
        body.paymentStatus ≠ .unpaid ∧ body.paymentStatus ≠ .pending) :
    AllGated ((RoutesOrders.updatePaymentStatus user orderId body).run db).2.toTables := by
  have hsettles : (RoutesOrders.updatePaymentStatus user orderId body).Ensures db
      (Settles orderId db (PaymentRecorded user body db)) := updatePaymentStatus_ensures
  have haccepts : (RoutesOrders.updatePaymentStatus user orderId body).Ensures db fun _ db' =>
      db' = db ∨ ∃ o, db.orders.lookup orderId = some o ∧ accepts user body o = true :=
    updatePaymentStatus_accepts
  unfold Ensures at hsettles haccepts
  rcases haccepts with hsame | ⟨o, hlookup, haccepted⟩
  · rw [hsame]
    exact hall
  · rcases hsettles with ⟨-, -, hsame⟩ | ⟨o₁, set, hlookup₁, ⟨-, -, rfl⟩, hset, -⟩
    · rw [hsame]
      exact hall
    · obtain rfl := Option.some.inj (hlookup.symm.trans hlookup₁)
      intro o' ho'
      rw [hset.orders] at ho'
      rcases Table.mem_modify_lookup (db.valid .ordersPkey) hlookup ho' with hmem | rfl
      · exact hall o' hmem
      · have hstatus : (RoutesOrders.recordPayment body o db.now o).paymentStatus =
            body.paymentStatus := RoutesOrders.recordPayment_status
        intro hawaits
        by_contra hstarted
        have hopen : started o = true := by
          simp only [RoutesOrders.recordPayment, not_or] at hstarted
          simp [started, hstarted]
        have hrequired : o.paymentRequired = true := by
          simp only [awaitsMoney, Bool.and_eq_true] at hawaits
          exact hawaits.1
        have hsettled := hmeets o hlookup haccepted hrequired hopen
        simp [awaitsMoney, hstatus, hsettled] at hawaits

theorem recordStatus_gated {userId : Uuid} {body : RoutesOrders.StatusUpdateRequest}
    {requested : OrderStatus} {o : Order} {now : Instant} (hgated : Gated o)
    (hedge : requested ∈ orderStatusTransitions o.status)
    (hgate : ¬ (requested = .inProgress ∧ o.paymentRequired = true ∧ o.paymentStatus ≠ .paid)) :
    Gated (RoutesOrders.recordStatus userId body requested o now o) := by
  have hstatus : (RoutesOrders.recordStatus userId body requested o now o).status = requested := rfl
  intro hawaits
  rw [hstatus]
  by_cases haccepted : requested = .accepted
  · left
    simp [haccepted, prePreparationStatuses]
  have hpayment : (RoutesOrders.recordStatus userId body requested o now o).paymentStatus =
      o.paymentStatus := by
    simp [RoutesOrders.recordStatus, RoutesOrders.paymentPending, haccepted]
  have hawaits : awaitsMoney o = true := by
    unfold awaitsMoney at hawaits ⊢
    rw [hpayment] at hawaits
    exact hawaits
  have hbefore := hgated hawaits
  simp only [awaitsMoney, Bool.and_eq_true, Bool.or_eq_true, decide_eq_true_eq] at hawaits
  have hunpaid : o.paymentStatus ≠ .paid := by
    rcases hawaits.2 with h | h
    · simp [h]
    · simp [h]
  have hlater : requested ≠ .inProgress := fun h => hgate ⟨h, hawaits.1, hunpaid⟩
  -- Before preparation every edge but the gated one stays before it or cancels.
  cases hcurrent : o.status <;> rw [hcurrent] at hedge hbefore <;>
    simp [orderStatusTransitions, prePreparationStatuses] at hedge hbefore ⊢
  · rcases hedge with rfl | rfl <;> simp
  · rcases hedge with rfl | rfl <;> simp
  · rcases hedge with rfl | rfl <;> simp
  · rcases hedge with rfl | rfl
    · exact absurd rfl hlater
    · simp

theorem storePaymentLink_gate {order : Order} {link : Option String} :
    Writes (fun _ => True) KeepsGate (RoutesOrders.storePaymentLink order link) := by
  apply writes_seq readOnly_read
  intro business
  dsimp only
  split
  next provider url _ =>
    have hset : KeepsGate (setOrder order.id fun o => { o with
        paymentLinkUrl := RoutesOrders.assign order.paymentLinkUrl (some url) o.paymentLinkUrl }) :=
      keepsGate_setOrder fun o h => gated_of_same h rfl rfl rfl
    exact writes_bind (writes_commit trivial (Session.extends_stage hset)) fun _ =>
      writes_readOnly readOnly_refreshOrder
  · exact writes_done _

theorem checkTransition_ok {requested : OrderStatus} {o : Order} :
    (RoutesOrders.checkTransition requested o).ReadOnly fun _ =>
      requested ∈ orderStatusTransitions o.status ∧
        ¬ (requested = .inProgress ∧ o.paymentRequired = true ∧ o.paymentStatus ≠ .paid) := by
  apply conforms_bind ensure_ok
  intro _ hedge
  apply Conforms.mono ensure_ok (fun _ _ _ => id)
  intro _ hgate
  exact ⟨hedge, hgate⟩

theorem updateOrderStatus_gate {user : AuthUser} {orderId : Uuid}
    {body : RoutesOrders.StatusUpdateRequest} {link : Option String} (hall : AllGated db.toTables) :
    (RoutesOrders.updateOrderStatus user orderId body link).Ensures db fun _ db' =>
      AllGated db'.toTables := by
  apply ensures_seq readOnly_requireStaffOrAbove.yields _ fun _ => hall
  intro _ _
  apply ensures_seq loadOrder_yields _ fun _ => hall
  rintro loaded ⟨hlookup, -⟩
  apply ensures_seq (R := fun _ => True) _ _ fun _ => hall
  · apply yields_orFail
    intro _ _
    trivial
  intro requested _
  apply ensures_seq checkTransition_ok.yields _ fun _ => hall
  rintro _ ⟨hedge, hgate⟩
  apply ensures_seq readOnly_readNow.yields _ fun _ => hall
  intro now _
  have hset : AllGated (setOrder orderId
      (RoutesOrders.recordStatus user.userId body requested loaded now) db.toTables) := by
    intro o' ho'
    rcases Table.mem_modify_lookup (db.valid .ordersPkey) hlookup ho' with hmem | rfl
    · exact hall o' hmem
    · exact recordStatus_gated (hall loaded (Table.lookup_mem hlookup)) hedge hgate
  have hquiet {f : Pending} (h : ∀ t, (f t).orders = t.orders) : KeepsGate f := keepsGate_of_same h
  apply ensures_seq (R := (Session.stage {} [.order orderId] (setOrder orderId
    (RoutesOrders.recordStatus user.userId body requested loaded now))).Extends KeepsGate) _ _
      fun _ => hall
  · apply ReadOnly.yields
    apply readOnly_stageWhen keepsGate_neutral
    apply readOnly_seq readOnly_read
    intro inventoryEnabled
    exact reverseConsumptionOnCancel_stages keepsGate_neutral fun _ _ _ _ => hquiet fun _ => rfl
  intro session hs
  have hevent : session.Extends KeepsGate (session.stage [] (addOrderEvent ⟨orderId,
      user.businessId, some loaded.status, requested, some user.userId, body.reason⟩)) :=
    Session.extends_stage (hquiet fun _ => rfl)
  have hs := keepsGate_neutral.trans hs hevent
  apply ensures_bind.mpr
  apply commit_ensures _ fun _ => hall
  intro db' htables _
  obtain ⟨f, hf, hpending⟩ := hs
  have hall' : AllGated db'.toTables := by
    rw [htables, hpending]
    exact hf _ hset
  apply ensures_seq readOnly_refreshOrder.yields _ fun _ => hall'
  intro order _
  split
  · apply ensures_bind.mpr
    apply ensures_attempt.mpr
    have hlinked : AllGated ((RoutesOrders.storePaymentLink order link).run db').2.toTables :=
      gate_of_writes storePaymentLink_gate hall'
    exact hlinked
  · exact hall'

theorem cancelUnpaidOrders_gate :
    Writes (fun _ => True) KeepsGate Worker.cancelUnpaidOrders := by
  apply writes_seq readOnly_read
  intro all
  apply writes_seq readOnly_readNow
  intro now
  dsimp only
  split
  · exact writes_done _
  · have hset (row : Worker.CancelledRow) :
        KeepsGate (setOrder row.order.id (Worker.cancelUnpaidOrder row)) :=
      keepsGate_setOrder fun _ _ _ => .inr rfl
    apply writes_staged (Worker.cancelRows_stages keepsGate_neutral (fun row _ => hset row)
      (fun _ => keepsGate_of_same fun _ => rfl) fun _ => keepsGate_of_same fun _ => rfl)
    intro session hs
    exact writes_commit trivial hs

end Gates

section Cancelled

variable {db : Database} {session : Session}

def Spares (orderId : Uuid) (f : Pending) : Prop :=
  ∀ t, (f t).orders.lookup orderId = t.orders.lookup orderId

theorem spares_neutral {orderId : Uuid} : Neutral (Spares orderId) where
  id _ := rfl
  comp f _ hf hg t := (hg (f t)).trans (hf t)

def Covered (o : Order) (t : Tables) (session : Session) : Prop :=
  ∀ s ∈ originalsOf o.businessId o.id t.stockMovements,
    s.ingredientId ∈ reversedOf o.businessId o.id (session.pending t).stockMovements

def Appends (f : Pending) : Prop :=
  ∀ t, ∃ posted, (f t).stockMovements = t.stockMovements ++ posted

theorem appends_neutral : Neutral Appends where
  id t := ⟨[], (List.append_nil _).symm⟩
  comp f g hf hg t := by
    obtain ⟨posted, hposted⟩ := hf t
    obtain ⟨posted', hposted'⟩ := hg (f t)
    refine ⟨posted ++ posted', ?_⟩
    rw [Function.comp_apply, hposted', hposted, List.append_assoc]

theorem appends_of_same {f : Pending} (h : ∀ t, (f t).stockMovements = t.stockMovements) :
    Appends f := by
  intro t
  exact ⟨[], by rw [h t, List.append_nil]⟩

theorem reversedOf_append {businessId orderId : Uuid} {movements posted : List StockMovement} :
    reversedOf businessId orderId (movements ++ posted) =
      reversedOf businessId orderId movements ++ reversedOf businessId orderId posted := by
  simp [reversedOf, orderMovements]

theorem Covered.extends {o : Order} {t : Tables} {session' : Session} (h : Covered o t session)
    (hs : session.Extends Appends session') : Covered o t session' := by
  obtain ⟨f, hf, hpending⟩ := hs
  obtain ⟨posted, hposted⟩ := hf (session.pending t)
  intro s hs
  rw [hpending, Function.comp_apply, hposted, reversedOf_append]
  exact List.mem_append_left _ (h s hs)

theorem reverseSaleConsumption_covers {o : Order} {notes : Option String}
    (hs : Session.Extends Appends {} session) :
    (reverseSaleConsumption session o.businessId o.id none notes).Yields db
      (Covered o db.toTables) := by
  obtain ⟨f, hf, hpending⟩ := hs
  obtain ⟨posted, hposted⟩ := hf db.toTables
  have hview : (session.pending db.toTables).stockMovements = db.stockMovements ++ posted := by
    rw [hpending]
    exact hposted
  apply yields_seq (S := fun originals => originals = originalsOf o.businessId o.id db.stockMovements)
  · exact yields_read rfl
  rintro originals rfl
  split
  next hnone =>
    apply yields_done
    intro s hs
    rw [hnone] at hs
    cases hs
  · apply yields_seq (S := fun already => already = reversedOf o.businessId o.id db.stockMovements)
    · exact yields_read rfl
    rintro already rfl
    apply yields_seq readOnly_readNow.yields
    intro now _
    apply yields_done
    intro s hs
    have hstaged (movements : List StockMovement) :
        ((session.stage [] (appendMovements movements)).pending db.toTables).stockMovements =
          db.stockMovements ++ posted ++ movements := by
      rw [← hview]
      rfl
    rw [hstaged, reversedOf_append, reversedOf_append]
    by_cases hin : s.ingredientId ∈ reversedOf o.businessId o.id db.stockMovements
    · exact List.mem_append_left _ (List.mem_append_left _ hin)
    · obtain ⟨m, hm, hid⟩ := reversals_cover hs hin
      apply List.mem_append_right
      apply List.mem_map.mpr
      refine ⟨m, ?_, hid⟩
      obtain ⟨original, -, -, rfl⟩ := mem_reversals hm
      simp only [orderMovements, List.mem_filter]
      exact ⟨hm, by simp [buildMovement]⟩

theorem appends_setOrder {orderId : Uuid} {set : Order → Order} :
    Appends (setOrder orderId set) :=
  appends_of_same fun _ => rfl

theorem appends_addOrderEvent (event : OrderEvent) : Appends (addOrderEvent event) :=
  appends_of_same fun _ => rfl

theorem appends_appendMovements (movements : List StockMovement) :
    Appends (appendMovements movements) :=
  fun _ => ⟨movements, rfl⟩

theorem cancelRows_covers (set : Worker.CancelledRow → Order → Order)
    {rows : List Worker.CancelledRow} {row : Worker.CancelledRow} (hrow : row ∈ rows)
    (henabled : row.inventoryEnabled = true) (hbefore : row.order.status ∈ prePreparationStatuses)
    (hs : Session.Extends Appends {} session) :
    (Worker.cancelRows set rows session).Yields db (Covered row.order db.toTables) := by
  induction rows generalizing session with
  | nil => cases hrow
  | cons first rows ih =>
      have hstaged : Session.Extends Appends {} ((session.stage [.order first.order.id]
          (setOrder first.order.id (set first))).stage [] (addOrderEvent first.event)) :=
        appends_neutral.trans (appends_neutral.trans hs (Session.extends_stage appends_setOrder))
          (Session.extends_stage (appends_addOrderEvent _))
      rcases List.mem_cons.mp hrow with rfl | hrow
      · apply yields_seq (S := Covered row.order db.toTables)
        · unfold reverseConsumptionOnCancel
          rw [if_neg (by simp [henabled]), if_pos hbefore]
          exact reverseSaleConsumption_covers hstaged
        intro session' hcovered
        apply Yields.mono (Worker.cancelRows_stages appends_neutral (fun _ _ => appends_setOrder)
          appends_addOrderEvent appends_appendMovements).yields
        intro session'' hs'
        exact hcovered.extends hs'
      · apply yields_seq (reverseConsumptionOnCancel_stages appends_neutral fun _ _ _ _ =>
          appends_appendMovements _).yields
        intro session' hs'
        exact ih hrow (appends_neutral.trans hstaged hs')

theorem mem_unpaidOrders {t : Tables} {now : Instant} {row : Worker.CancelledRow}
    (h : row ∈ Worker.timedOut now (Worker.unpaidOrders t)) :
    row.order ∈ t.orders ∧ Worker.awaitsPayment row.order = true ∧
      row.order.createdAt + Worker.paymentTimeout row.order.businessId t * Time.minute ≤ now ∧
        row.inventoryEnabled = Worker.inventoryEnabled row.order.businessId t := by
  obtain ⟨entry, hentry, rfl⟩ := List.mem_map.mp h
  obtain ⟨hmem, hdue⟩ := List.mem_filter.mp hentry
  obtain ⟨o, ho, rfl⟩ := List.mem_map.mp hmem
  obtain ⟨hlisted, hawaits⟩ := List.mem_filter.mp ho
  exact ⟨hlisted, hawaits, of_decide_eq_true hdue, rfl⟩

theorem cancelRows_spares {set : Worker.CancelledRow → Order → Order}
    {rows : List Worker.CancelledRow} {orderId : Uuid} (hkey : ∀ row o, key (set row o) = key o)
    (hrows : ∀ row ∈ rows, orderId ≠ row.order.id) :
    (Worker.cancelRows set rows {}).Yields db fun session =>
      (session.pending db.toTables).orders.lookup orderId = db.orders.lookup orderId := by
  have hset (row : Worker.CancelledRow) (hrow : row ∈ rows) :
      Spares orderId (setOrder row.order.id (set row)) :=
    fun _ => Table.lookup_modify_ne (hkey row) (hrows row hrow)
  apply Yields.mono (Worker.cancelRows_stages spares_neutral hset (fun _ _ => rfl)
    fun _ _ => rfl).yields
  rintro session ⟨f, hf, hpending⟩
  rw [hpending]
  exact hf _

-- An order the job leaves out of its rows keeps its status, so what it cancels was overdue.
theorem cancelUnpaidOrders_cancels (hall : AllGated db.toTables) :
    Worker.cancelUnpaidOrders.Ensures db fun _ db' => ∀ o ∈ cancelledBy db db',
      isOverdue db o = true ∧ o.status ∈ prePreparationStatuses ∧
        (isRestored o db = true ∨
          Worker.inventoryEnabled o.businessId db.toTables = true → Restored o db db') := by
  have hlookup (o : Order) (ho : o ∈ db.orders) : db.orders.lookup o.id = some o :=
    Table.lookup_of_mem (db.valid .ordersPkey) ho
  have hnone {Q : Order → Prop} : ∀ o ∈ cancelledBy db db, Q o := by
    intro o ho
    simp only [cancelledBy, List.mem_filter, decide_eq_true_eq] at ho
    obtain ⟨hmem, hopen, hcancelled⟩ := ho
    rw [hlookup o hmem] at hcancelled
    exact absurd (of_decide_eq_true hcancelled) hopen
  apply ensures_seq (R := fun all => all = Worker.unpaidOrders db.toTables)
  · exact yields_read rfl
  rotate_left
  · exact fun _ => hnone
  rintro all rfl
  apply ensures_seq (R := fun now => now = db.now)
  · exact yields_read rfl
  rotate_left
  · exact fun _ => hnone
  rintro now rfl
  dsimp only
  split
  · exact hnone
  · generalize hrows : Worker.timedOut db.now (Worker.unpaidOrders db.toTables) = rows
    have hkey (row : Worker.CancelledRow) (o : Order) :
        key (Worker.cancelUnpaidOrder row o) = key o := rfl
    have hsame (row : Worker.CancelledRow) (o : Order) :
        (Worker.cancelUnpaidOrder row o).id = o.id ∧
          (Worker.cancelUnpaidOrder row o).businessId = o.businessId := ⟨rfl, rfl⟩
    have hmem (row : Worker.CancelledRow) (hrow : row ∈ rows) := mem_unpaidOrders (hrows ▸ hrow)
    have hyields : (Worker.cancelRows Worker.cancelUnpaidOrder rows {}).Yields db fun _ => True :=
      Yields.mono (Worker.cancelRows_stages appends_neutral (fun _ _ => appends_setOrder)
        appends_addOrderEvent appends_appendMovements).yields fun _ _ => trivial
    have hspares := hyields.forall fun o : Order => hyields.forall
      fun hrows : ∀ row ∈ rows, o.id ≠ row.order.id => cancelRows_spares hkey hrows
    have hrestocks := hyields.forall fun o : Order => hyields.forall fun ho : o ∈ db.orders =>
      cancelRows_restocks ⟨o, hlookup o ho, rfl⟩ hsame (fun row hrow => (hmem row hrow).1)
        (restocks_start ⟨o, hlookup o ho, rfl⟩)
    have hcovers := hyields.forall fun row : Worker.CancelledRow => hyields.forall
      fun h : row ∈ rows ∧ row.inventoryEnabled = true ∧
        row.order.status ∈ prePreparationStatuses =>
          cancelRows_covers Worker.cancelUnpaidOrder h.1 h.2.1 h.2.2 appends_neutral.refl
    apply ensures_seq (hspares.and (hrestocks.and hcovers))
    rotate_left
    · exact fun _ => hnone
    rintro session ⟨hspares, hrestocks, hcovers⟩
    apply commit_ensures _ fun _ => hnone
    intro db' htables _ o ho
    simp only [cancelledBy, List.mem_filter, decide_eq_true_eq] at ho
    obtain ⟨hlisted, hopen, hcancelled⟩ := ho
    have hlisted_row : ∃ row ∈ rows, row.order = o := by
      by_contra hnot
      push Not at hnot
      have hids (row : Worker.CancelledRow) (hrow : row ∈ rows) : o.id ≠ row.order.id := by
        intro hid
        apply hnot row hrow
        have hsome := hlookup row.order (hmem row hrow).1
        rw [← hid, hlookup o hlisted] at hsome
        exact (Option.some.inj hsome).symm
      rw [htables, hspares o hids, hlookup o hlisted] at hcancelled
      exact hopen (of_decide_eq_true hcancelled)
    obtain ⟨row, hrow, rfl⟩ := hlisted_row
    obtain ⟨-, hawaits, hdue, henabled⟩ := hmem row hrow
    have hbefore : row.order.status ∈ prePreparationStatuses := by
      simp only [Worker.awaitsPayment, Bool.and_eq_true] at hawaits
      exact (hall row.order hlisted (by simpa [awaitsMoney] using hawaits.1)).resolve_right hopen
    refine ⟨by simp [isOverdue, hawaits, hdue], hbefore, fun hstock => ?_⟩
    have hpk : (session.pending db.toTables).orders.PrimaryKey := by
      have hvalid := db'.valid .ordersPkey
      simp only [Constraint.Holds, htables] at hvalid
      exact hvalid
    obtain ⟨posted, hposted, hreverses⟩ := (hrestocks row.order hlisted).posts
    constructor
    · exact ⟨posted, by rw [htables, hposted], hreverses hpk⟩
    · intro s hs
      rcases hstock with halready | hkept
      · have hin : s.ingredientId ∈ reversedOf row.order.businessId row.order.id
            db.stockMovements := of_decide_eq_true (List.all_eq_true.mp halready s hs)
        rw [htables, hposted, reversedOf_append]
        exact List.mem_append_left _ hin
      · have hcovered := hcovers row ⟨hrow, henabled.trans hkept, hbefore⟩ s hs
        rw [htables]
        exact hcovered

end Cancelled

section Runs

variable {db db' : Database} {event : Orders.Event} {steps : List (Orders.Event × Database)}

theorem wrap_gate {α : Type} {f : α → OrderReply} {x : Handler α} {r : Except Failure OrderReply}
    (h : AllGated (x.run db).2.toTables) (hrun : (wrap f x).run db = (r, db')) :
    AllGated db'.toTables :=
  wrap_run (Q := fun db => AllGated db.toTables) h hrun

theorem gated_next (hall : AllGated db.toTables) (hnext : NextWrite db event db')
    (hmeets : Meets db event) : AllGated db'.toTables := by
  cases event with
  | environment =>
      intro o' ho'
      rcases hnext o' ho' with hplaced | ⟨o, ho, hstatus, hpayment, hrequired⟩
      · exact isPlaced_gated hplaced
      · exact gated_of_same (hall o ho) hstatus hpayment hrequired
  | served request r =>
      obtain ⟨hwriting, hrun⟩ := hnext
      cases hwriting with
      | updateOrderStatus => exact wrap_gate (updateOrderStatus_gate hall) hrun
      | updatePaymentStatus =>
          have hpatched := updatePaymentStatus_gate hall hmeets
          have hreplied {α β : Type} {f : α → β} {x : Handler α}
              (h : AllGated (x.run db).2.toTables) :
              AllGated ((x.bind fun a => .done (f a)).run db).2.toTables := by
            rw [run_bind]
            rcases hx : x.run db with ⟨e | a, db''⟩ <;> rw [hx] at h <;> exact h
          exact wrap_gate (hreplied (hreplied hpatched)) hrun
      | webhook hwebhook =>
          have hwrites := handle_writes keepsGate_neutral fun _ => webhook_gate hwebhook
          exact wrap_gate (gate_of_writes (writes_bind hwrites fun _ => writes_done _) hall) hrun
      | cancelUnpaidOrders =>
          exact wrap_gate (gate_of_writes (Worker.runJob_writes cancelUnpaidOrders_gate) hall) hrun

theorem cancelled_next {reply : Except Failure OrderReply} (hall : AllGated db.toTables)
    (hnext : NextWrite db (.served .cancelUnpaidOrders reply) db')
    (hmeets : Meets db (.served .cancelUnpaidOrders reply)) :
    ∀ o ∈ cancelledBy db db', o.status ∈ prePreparationStatuses ∧ Restored o db db' := by
  have hjob : (Worker.runJob Worker.cancelUnpaidOrders).Ensures db fun _ db' =>
      ∀ o ∈ cancelledBy db db', isOverdue db o = true ∧ o.status ∈ prePreparationStatuses ∧
        (isRestored o db = true ∨
          Worker.inventoryEnabled o.businessId db.toTables = true → Restored o db db') := by
    apply ensures_bind.mpr
    apply ensures_attempt.mpr
    exact cancelUnpaidOrders_cancels hall
  have hcancelled := wrap_run hjob hnext.2
  intro o ho
  obtain ⟨hoverdue, hbefore, hrestored⟩ := hcancelled o ho
  exact ⟨hbefore, hrestored (hmeets o (List.mem_filter.mp ho).1 hoverdue)⟩

theorem payment_gate_holds (hplaced : ∀ o ∈ db.orders, isPlaced o = true)
    (hrun : Run.Along NextWrite db steps)
    (hmeets : Run.Along (fun db event _ => Meets db event) db steps) : GateHolds db steps := by
  have hstart : AllGated db.toTables := fun o ho => isPlaced_gated (hplaced o ho)
  have hgated {taken : List (Orders.Event × Database)} (hpre : taken <+: steps) :
      AllGated (Run.last db taken).toTables := by
    have hsteps := (hrun.of_prefix hpre).and (hmeets.of_prefix hpre)
    exact hsteps.invariant (I := fun db => AllGated db.toTables) hstart
      fun _ _ _ hall hstep => gated_next hall hstep.1 hstep.2
  constructor
  · exact hgated List.prefix_rfl
  · intro taken reply db' hpre
    have hnext := Run.along_iff.mp hrun taken _ db' hpre
    have hmeets := Run.along_iff.mp hmeets taken _ db' hpre
    exact cancelled_next (hgated ((List.prefix_append _ _).trans hpre)) hnext hmeets

end Runs

instance (db : Database) (event : Orders.Event) : Decidable (Meets db event) := by
  unfold Meets
  split <;> infer_instance

def prepaid : Database where
  businesses := [{ id := 1, inventoryEnabled := true }]
  ingredients := floured
  orders := [{ id := 5, businessId := 1, customerId := none, orderNumber := "BO-000005"
               status := .new, paymentStatus := .unpaid, orderMode := .pickup, source := .whatsapp
               subtotalCents := 1000, deliveryFeeCents := 0, totalCents := 1000
               currency := "ZAR", paymentRequired := true }]
  stockMovements := saleMovements 1 5 none 10 [⟨2, 333⟩] floured
  now := 100000000000
  valid := Tables.violation_eq_none.mp (by decide +kernel)

def moveTo (status : String) : OrderRequest :=
  .updateOrderStatus owner 5
    { status := status, reason := none, estimatedReadyMinutes := none
      minutesInRange := cancellation.minutesInRange }
    none

theorem no_method_accepted : ∀ method ∈ (none : Option PaymentMethod), method ∈
    [.cash, .card, .payOnCollection, .directEft, .payshap, .yoco, .payfast, .stitch, .manual] := by
  simp

def patchTo (status : PaymentStatus) : OrderRequest :=
  .stock (.api (.updatePaymentStatus owner 5
    { paymentStatus := status, paymentMethod := none, paymentReference := none
      methodAccepted := no_method_accepted }))

def acceptThenExpire : List OrderRequest :=
  [moveTo "ACCEPTED", .cancelUnpaidOrders]

def finishThenUnpay : List OrderRequest :=
  [moveTo "ACCEPTED", patchTo .paid, moveTo "IN_PROGRESS", moveTo "READY", moveTo "COMPLETED",
    patchTo .unpaid]

theorem expired_order_restored : GateHolds prepaid (Orders.played prepaid acceptThenExpire) ∧
    (Run.last prepaid (Orders.played prepaid acceptThenExpire)).orders.map (·.status) =
      [.cancelled] := by
  have hserves : ∀ request ∈ acceptThenExpire, Writing request := by
    simp [acceptThenExpire, moveTo, Writing.updateOrderStatus, Writing.cancelUnpaidOrders]
  constructor
  · apply payment_gate_holds
    · decide +kernel
    · exact Orders.along_played hserves
    · decide +kernel
  · decide +kernel

theorem finished_order_unpaid : ¬ ∀ (db : Database) (steps : List (Orders.Event × Database)),
    (∀ o ∈ db.orders, isPlaced o = true) → Run.Along NextWrite db steps →
      GateHolds db steps := by
  intro h
  have hserves : ∀ request ∈ finishThenUnpay, Writing request := by
    simp [finishThenUnpay, moveTo, patchTo, Writing.updateOrderStatus, Writing.updatePaymentStatus]
  have hholds := h prepaid (Orders.played prepaid finishThenUnpay) (by decide +kernel)
    (Orders.along_played hserves)
  have hgated := hholds.gated
  revert hgated
  unfold Gated
  decide +kernel

end NextgenBackend.PaymentGate
