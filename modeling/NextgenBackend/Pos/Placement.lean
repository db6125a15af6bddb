import NextgenBackend.Api.Effects

namespace NextgenBackend.RoutesPos

open Txn

variable {db : Database} {user : AuthUser} {businessId orderId newCustomerId : Uuid}
  {body : POSOrderCreateRequest} {session : Session} {payments : List POSPaymentAllocationRequest}

theorem getOpenTill_yields :
    (getOpenTill businessId).Yields db fun till =>
      openTillSession businessId db.toTables = some till := by
  refine yields_seq lockOpenTill_yields ?_
  rintro till rfl
  exact yields_orFail fun till h => h

def Settlement.Stored (t : Tables) : Settlement → Prop
  | .replayed order => t.orders.lookup order.id = some order
  | .settled intents _ => ∀ i ∈ intents, t.intents.lookup i.id = some i

theorem loadPosPaymentIntentForUpdate_yields {intentId : Uuid} :
    (loadPosPaymentIntentForUpdate businessId intentId).Yields db fun i =>
      db.intents.lookup i.id = some i := by
  refine yields_seq (S := fun row => row =
    (db.intents.lookup intentId).filter fun i => i.businessId = businessId) (yields_lock rfl) ?_
  rintro row rfl
  refine yields_orFail fun i hi => ?_
  obtain ⟨hlookup, -⟩ := Option.filter_eq_some_iff.mp hi
  have hid : i.id = intentId := Table.lookup_key hlookup
  rwa [hid]

theorem replayConsumed_stored {intent : POSPaymentLinkIntent} :
    (replayConsumed body intent).Yields db (Settlement.Stored db.toTables) := by
  refine yields_seq (S := fun existing => ∀ order, existing = some order →
    db.orders.lookup order.id = some order) (yields_read ?_) fun existing hexisting => ?_
  · intro order h
    obtain ⟨idempotencyKey, -, h⟩ := Option.bind_eq_some_iff.mp h
    obtain ⟨id, -, h⟩ := Option.bind_eq_some_iff.mp h
    obtain ⟨hlookup, -⟩ := Option.filter_eq_some_iff.mp h
    have hid : order.id = id := Table.lookup_key hlookup
    rwa [hid]
  · split
    next order => exact yields_done (hexisting order rfl)
    next => exact yields_fail

theorem claimIntents_stored :
    (claimIntents user body payments).Yields db (Settlement.Stored db.toTables) := by
  induction payments with
  | nil => exact yields_done (by simp [Settlement.Stored])
  | cons p payments ih =>
      unfold claimIntents
      split
      · exact ih
      · refine yields_seq loadPosPaymentIntentForUpdate_yields fun i hi => ?_
        split
        · exact replayConsumed_stored
        · refine yields_seq Pos.readOnly_raiseError.yields fun _ _ => ?_
          refine yields_seq ih fun rest hrest => ?_
          cases rest with
          | replayed order => exact yields_done hrest
          | settled intents changeDue =>
              refine yields_done fun j hj => ?_
              rcases List.mem_cons.mp hj with rfl | hj
              · exact hi
              · exact hrest j hj

theorem settlePayments_stored {totalCents : Cents} :
    (settlePayments user body totalCents).Yields db (Settlement.Stored db.toTables) := by
  unfold settlePayments
  split
  · exact yields_seq readOnly_ensure.yields fun _ _ => claimIntents_stored
  · split
    · refine yields_seq readOnly_ensure.yields fun _ _ => yields_done ?_
      simp [Settlement.Stored]
    · exact yields_done (by simp [Settlement.Stored])

structure Placement (user : AuthUser) (orderId : Uuid) (body : POSOrderCreateRequest)
    (db : Database) where
  till : TillSession
  sale : Sale
  changeDueCents : Option Cents
  sequence : Nat
  currency : String
  intents : List POSPaymentLinkIntent
  opened : openTillSession user.businessId db.toTables = some till
  covered : ∀ payments, body.payments = some payments →
    paymentsTotal payments = (sale.totals body).totalCents
  matched : (Settlement.settled intents changeDueCents).Matches user (body.payments.getD [])
  stored : ∀ i ∈ intents, db.intents.lookup i.id = some i

def Placement.order {user : AuthUser} {orderId : Uuid} {body : POSOrderCreateRequest}
    {db : Database} (p : Placement user orderId body db) : Order :=
  newOrder user orderId body p.till p.sale p.changeDueCents p.sequence p.currency db.now

structure Places (p : Placement user orderId body db) (t : Tables) : Prop where
  orders : t.orders = db.orders.insert p.order
  tillSessions : t.tillSessions = db.tillSessions
  intents : t.intents = (consumeIntents orderId db.now p.intents db.toTables).intents
  allocations : t.allocations.map money =
    (db.allocations ++ allocationRows body p.order p.intents db.now).map money

theorem Places.beside {p : Placement user orderId body db} {t t' : Tables} (h : Places p t)
    (hbeside : Beside t t') : Places p t' :=
  ⟨hbeside.orders.trans h.orders, hbeside.tillSessions.trans h.tillSessions,
    hbeside.intents.trans h.intents, hbeside.allocations.trans h.allocations⟩

def Rings (user : AuthUser) (orderId : Uuid) (body : POSOrderCreateRequest) (db : Database)
    (r : Except Failure Order) (db' : Database) : Prop :=
  db' = db ∨ ∃ p : Placement user orderId body db,
    Places p db'.toTables ∧ db'.now = db.now ∧ r = .ok p.order

-- The sale is rung up, and what its preparation left still holds.
def RingsWith (Q : Sale → Tables → Prop) (user : AuthUser) (orderId : Uuid)
    (body : POSOrderCreateRequest) (db : Database) (r : Except Failure Order) (db' : Database) :
    Prop :=
  db' = db ∨ ∃ p : Placement user orderId body db,
    Places p db'.toTables ∧ Q p.sale db'.toTables ∧ db'.now = db.now ∧ r = .ok p.order

structure CheckoutKeeps (I : Tables → Prop) : Prop where
  consumeIntents : ∀ orderId now intents, Preserves I (consumeIntents orderId now intents)
  sequence : ∀ businessId sequence, Preserves I (setOrderNumberSequence businessId sequence)
  insertOrder : ∀ order, Preserves I (insertOrder order)
  insertOrderRows : ∀ items event allocations,
    Preserves I (insertOrderRows items event allocations)
  appendMovements : ∀ movements, Preserves I (Inventory.appendMovements movements)
  earn : ∀ set row, Loyalty.Earning row → Preserves I (Loyalty.postPoints set row)

variable {Q : Sale → Tables → Prop}

theorem rings_same {r : Except Failure Order} : RingsWith Q user orderId body db r db := .inl rfl

theorem rings_readOnly {x : Handler Order} (h : x.ReadOnly fun _ => True) :
    x.Ensures db (RingsWith Q user orderId body db) :=
  h.ensures (fun _ _ => rings_same) fun _ => rings_same

structure Consuming (p : Placement user orderId body db) (t : Tables) : Prop where
  orders : t.orders = db.orders
  tillSessions : t.tillSessions = db.tillSessions
  intents : t.intents = (consumeIntents orderId db.now p.intents db.toTables).intents
  allocations : t.allocations.map money = db.allocations.map money

theorem finishCheckout_places {p : Placement user orderId body db} {db' : Database}
    (hkeeps : CheckoutKeeps (Q p.sale)) (h : Places p db'.toTables) (hQ : Q p.sale db'.toTables)
    (hnow : db'.now = db.now) :
    (finishCheckout user p.order).Ensures db' fun r db'' =>
      Places p db''.toTables ∧ Q p.sale db''.toTables ∧ db''.now = db.now ∧ r = .ok p.order := by
  have hlookup (db'' : Database) (h : Places p db''.toTables) :
      db''.orders.lookup p.order.id = some p.order := by
    have hpk : db''.orders.PrimaryKey := db''.valid .ordersPkey
    rw [h.orders] at hpk ⊢
    exact Table.lookup_insert_self (Table.primaryKey_insert.mp hpk).2
  refine ensures_bind.mpr (refreshOrder_ensures (hlookup db' h) ?_)
  dsimp only
  split
  · refine ensures_bind.mpr (awardLoyaltyPointsIfEnabled_keeps hQ hkeeps.earn
      fun db'' hbeside hQ' hnow' => ?_)
    have h' := h.beside hbeside
    exact refreshOrder_ensures (hlookup db'' h') ⟨h', hQ', hnow'.trans hnow, rfl⟩
  · exact ⟨h, hQ, hnow, rfl⟩

theorem places_insert {p : Placement user orderId body db} {t : Tables} {items : List OrderItem}
    {event : OrderEvent} (h : Consuming p t) :
    Places p (insertOrderRows items event (allocationRows body p.order p.intents db.now)
      (insertOrder p.order t)) := by
  refine ⟨congrArg (Table.insert · p.order) h.orders, h.tillSessions, h.intents, ?_⟩
  simp only [insertOrderRows, insertOrder, List.map_append, h.allocations]

theorem saveCheckout_rings (p : Placement user orderId body db)
    (hkeeps : CheckoutKeeps (Q p.sale)) (h : Consuming p (session.pending db.toTables))
    (hQ : Q p.sale (session.pending db.toTables)) :
    (saveCheckout user body p.sale p.order p.intents db.now session).Ensures db
      (RingsWith Q user orderId body db) := by
  refine ensures_bind.mpr (ensures_read.mpr ?_)
  dsimp only
  split
  · exact rings_readOnly readOnly_replayIdempotentCheckout
  have hneutral : Neutral fun f => Aside f ∧ Preserves (Q p.sale) f :=
    aside_neutral.and preserves_neutral
  refine ensures_seq (readOnly_stageWhen hneutral
    (Inventory.postSaleConsumption_stages hneutral fun movements =>
      ⟨aside_appendMovements, hkeeps.appendMovements movements⟩)).yields
    (fun session' hs => ?_) fun _ => rings_same
  obtain ⟨f, ⟨hf, hkept⟩, hpending⟩ := hs
  refine ensures_bind.mpr (ensures_tryCommit.mpr ⟨fun db' hw => ?_, fun e _ => ?_⟩)
  · obtain ⟨htables, hnow⟩ := Database.write_ok hw
    refine Ensures.mono (finishCheckout_places hkeeps ?_ ?_ hnow) fun r db'' h => .inr ⟨p, h⟩
    · rw [htables, hpending]
      exact (places_insert h).beside (hf _)
    · rw [htables, hpending]
      exact hkept _ (hkeeps.insertOrderRows _ _ _ _ (hkeeps.insertOrder _ _ hQ))
  · exact rings_readOnly readOnly_replayIdempotentCheckout

theorem aside_insertCustomer {customer : Customer} : Aside (Loyalty.insertCustomer customer) :=
  fun _ => ⟨rfl, rfl, rfl, rfl⟩

theorem aside_setOrderNumberSequence {sequence : Nat} :
    Aside (setOrderNumberSequence businessId sequence) :=
  fun _ => ⟨rfl, rfl, rfl, rfl⟩

theorem consuming_stage {p : Placement user orderId body db} {touched : List RowKey}
    {session' : Session} (hs : Session.Extends Aside {} session)
    (hs' : (session.stage touched (consumeIntents orderId db.now p.intents)).Extends Aside session') :
    Consuming p (session'.pending db.toTables) := by
  obtain ⟨f, hf, hpending⟩ := hs'
  have hbefore := hs.pending db.toTables
  have hafter := hf (consumeIntents orderId db.now p.intents (session.pending db.toTables))
  rw [hpending]
  refine ⟨hafter.orders.trans hbefore.orders, hafter.tillSessions.trans hbefore.tillSessions,
    hafter.intents.trans ?_, hafter.allocations.trans hbefore.allocations⟩
  simp only [consumeIntents, hbefore.intents]

-- What a checkout holds once its own checks have passed, before it writes anything.
inductive Admission where
  | replayed (order : Order)
  | admitted (sale : Sale) (order : Order) (intents : List POSPaymentLinkIntent) (now : Instant)
      (session : Session)

def admitOrder (user : AuthUser) (orderId : Uuid) (body : POSOrderCreateRequest)
    (till : TillSession) (sale : Sale) (session : Session) : Handler Admission := do
  let now ← readNow
  let settlement ← settlePayments user body (sale.totals body).totalCents
  match settlement with
  | .replayed order => pure (.replayed order)
  | .settled intents changeDue => do
      let session := session.stage (intents.map fun i => .intent i.id)
        (consumeIntents orderId now intents)
      let (sequence, currency, session) ← nextOrderNumber user.businessId session
      pure (.admitted sale (newOrder user orderId body till sale changeDue sequence currency now)
        intents now session)

def admission (user : AuthUser) (orderId newCustomerId : Uuid) (body : POSOrderCreateRequest) :
    Handler Admission := do
  requirePosEnabled user
  requireStaffOrAbove user
  let existing ← replay user.businessId body
  match existing with
  | some order => pure (.replayed order)
  | none => do
      let till ← getOpenTill user.businessId
      let (sale, session) ← prepareSale user orderId newCustomerId body
      admitOrder user orderId body till sale session

def Admission.save (user : AuthUser) (body : POSOrderCreateRequest) : Admission → Handler Order
  | .replayed order => pure order
  | .admitted sale order intents now session =>
      saveCheckout user body sale order intents now session

theorem placeOrder_eq {till : TillSession} {sale : Sale} :
    placeOrder user orderId body till sale session =
      (admitOrder user orderId body till sale session).bind (Admission.save user body) := by
  unfold placeOrder admitOrder
  simp only [bind_eq, bind_assoc]
  refine congrArg _ (funext fun now => congrArg _ (funext fun settlement => ?_))
  cases settlement with
  | replayed order => rfl
  | settled intents changeDue =>
      simp only [bind_assoc]
      rfl

theorem createPosOrder_eq : createPosOrder user orderId newCustomerId body =
    (admission user orderId newCustomerId body).bind (Admission.save user body) := by
  unfold createPosOrder admission
  simp only [bind_eq, bind_assoc]
  refine congrArg _ (funext fun _ => congrArg _ (funext fun _ =>
    congrArg _ (funext fun existing => ?_)))
  cases existing with
  | some order => rfl
  | none =>
      unfold checkout
      simp only [bind_eq, bind_assoc, placeOrder_eq]

def Admission.Placed (Q : Sale → Tables → Prop) (user : AuthUser) (orderId : Uuid)
    (body : POSOrderCreateRequest) (db : Database) : Admission → Prop
  | .replayed _ => True
  | .admitted sale order intents now session =>
      ∃ p : Placement user orderId body db, p.sale = sale ∧ p.order = order ∧
        p.intents = intents ∧ now = db.now ∧ Consuming p (session.pending db.toTables) ∧
          Q sale (session.pending db.toTables)

theorem admitOrder_placed {till : TillSession} {sale : Sale} (hkeeps : CheckoutKeeps (Q sale))
    (htill : openTillSession user.businessId db.toTables = some till)
    (hs : Session.Extends Aside {} session) (hQ : Q sale (session.pending db.toTables)) :
    (admitOrder user orderId body till sale session).Yields db
      (Admission.Placed Q user orderId body db) := by
  refine yields_seq (S := fun now => now = db.now) (yields_read rfl) ?_
  rintro now rfl
  refine yields_seq (settlePayments_stored.and settlePayments_matches.yields)
    fun settlement h => ?_
  obtain ⟨hstored, hmatches, hcovered⟩ := h
  cases settlement with
  | replayed order => exact yields_done trivial
  | settled intents changeDue =>
      have hsequence (sequence : Nat) :
          Aside (setOrderNumberSequence user.businessId sequence) ∧
            Preserves (Q sale) (setOrderNumberSequence user.businessId sequence) :=
        ⟨aside_setOrderNumberSequence, hkeeps.sequence _ sequence⟩
      refine yields_seq (nextOrderNumber_stages (N := fun f => Aside f ∧ Preserves (Q sale) f)
        hsequence).yields fun numbered hs' => ?_
      obtain ⟨sequence, currency, session'⟩ := numbered
      refine yields_done ⟨⟨till, sale, changeDue, sequence, currency, intents, htill, hcovered,
        hmatches, hstored⟩, rfl, rfl, rfl, rfl, consuming_stage hs hs'.left, ?_⟩
      obtain ⟨f, ⟨-, hkept⟩, hpending⟩ := hs'
      dsimp only at hpending
      rw [hpending]
      exact hkept _ (hkeeps.consumeIntents _ _ _ _ hQ)

theorem admission_placed (hkeeps : ∀ sale, CheckoutKeeps (Q sale))
    (hprepared : (prepareSale user orderId newCustomerId body).Yields db fun prepared =>
      Q prepared.1 (prepared.2.pending db.toTables)) :
    (admission user orderId newCustomerId body).Yields db
      (Admission.Placed Q user orderId body db) := by
  refine yields_seq readOnly_requirePosEnabled.yields fun _ _ => ?_
  refine yields_seq readOnly_requireStaffOrAbove.yields fun _ _ => ?_
  refine yields_seq readOnly_replay.yields fun existing _ => ?_
  cases existing with
  | some order => exact yields_done trivial
  | none =>
      refine yields_seq getOpenTill_yields fun till htill => ?_
      refine yields_seq ((prepareSale_stages aside_neutral (fun _ _ _ => aside_insertCustomer)
        fun _ _ _ _ => aside_postPoints).yields.and hprepared) fun prepared h => ?_
      obtain ⟨hs, hQ⟩ := h
      exact admitOrder_placed (hkeeps _) htill hs hQ

theorem createPosOrder_rings_with (hkeeps : ∀ sale, CheckoutKeeps (Q sale))
    (hprepared : (prepareSale user orderId newCustomerId body).Yields db fun prepared =>
      Q prepared.1 (prepared.2.pending db.toTables)) :
    (createPosOrder user orderId newCustomerId body).Ensures db
      (RingsWith Q user orderId body db) := by
  rw [createPosOrder_eq]
  refine ensures_seq (admission_placed hkeeps hprepared) (fun admission h => ?_) fun _ => rings_same
  cases admission with
  | replayed order => exact rings_same
  | admitted sale order intents now session =>
      obtain ⟨p, rfl, rfl, rfl, rfl, hconsuming, hQ⟩ := h
      exact saveCheckout_rings p (hkeeps _) hconsuming hQ

theorem prepareSale_yields :
    (prepareSale user orderId newCustomerId body).Yields db fun _ => True :=
  (prepareSale_stages aside_neutral (fun _ _ _ => aside_insertCustomer)
    fun _ _ _ _ => aside_postPoints).yields.mono fun _ _ => trivial

theorem checkoutKeeps_true : CheckoutKeeps fun _ => True :=
  ⟨fun _ _ _ _ h => h, fun _ _ _ h => h, fun _ _ h => h, fun _ _ _ _ h => h,
    fun _ _ h => h, fun _ _ _ _ h => h⟩

theorem createPosOrder_rings :
    (createPosOrder user orderId newCustomerId body).Ensures db (Rings user orderId body db) := by
  refine Ensures.mono (createPosOrder_rings_with (Q := fun _ _ => True)
    (fun _ => checkoutKeeps_true) prepareSale_yields) fun r db' h => ?_
  rcases h with h | ⟨p, hplaces, -, hnow, hr⟩
  · exact .inl h
  · exact .inr ⟨p, hplaces, hnow, hr⟩

end NextgenBackend.RoutesPos
