import NextgenBackend.Api.System

namespace NextgenBackend

open Txn RoutesPos RoutesPayments

-- What an allocation records of the money taken, its provider refund set aside.
def money (a : POSPaymentAllocation) : POSPaymentAllocation :=
  { a with
    providerRefundStatus := none
    providerRefundConfirmedAt := none
    providerRefundConfirmedByUserId := none }

structure Beside (t t' : Tables) : Prop where
  orders : t'.orders = t.orders
  tillSessions : t'.tillSessions = t.tillSessions
  intents : t'.intents = t.intents
  allocations : t'.allocations.map money = t.allocations.map money

theorem Beside.refl (t : Tables) : Beside t t := ⟨rfl, rfl, rfl, rfl⟩

theorem Beside.trans {t t' t'' : Tables} (h : Beside t t') (h' : Beside t' t'') : Beside t t'' where
  orders := h'.orders.trans h.orders
  tillSessions := h'.tillSessions.trans h.tillSessions
  intents := h'.intents.trans h.intents
  allocations := h'.allocations.trans h.allocations

def Aside (f : Pending) : Prop :=
  ∀ t, Beside t (f t)

theorem aside_neutral : Neutral Aside where
  id := Beside.refl
  comp _ _ hf hg t := (hf t).trans (hg _)

theorem map_money_flag {ids : List (Uuid × Nat)} {f : POSPaymentAllocation → POSPaymentAllocation}
    (hf : ∀ a, money (f a) = money a) (rows : Table POSPaymentAllocation) :
    (rows.map fun a => if a.id ∈ ids then f a else a).map money = rows.map money := by
  rw [List.map_map]
  refine List.map_congr_left fun a _ => ?_
  by_cases h : a.id ∈ ids <;> simp [h, hf]

theorem aside_flagProviderRefundPending {ids : List (Uuid × Nat)} :
    Aside (flagProviderRefundPending ids) := by
  refine fun t => ⟨rfl, rfl, rfl, map_money_flag ?_ t.allocations⟩
  exact fun _ => rfl

theorem aside_confirmProviderRefund {ids : List (Uuid × Nat)} {userId : Uuid} {now : Instant} :
    Aside (confirmProviderRefund ids userId now) := by
  refine fun t => ⟨rfl, rfl, rfl, map_money_flag ?_ t.allocations⟩
  exact fun _ => rfl

theorem aside_appendMovements {movements : List StockMovement} :
    Aside (Inventory.appendMovements movements) := fun _ => ⟨rfl, rfl, rfl, rfl⟩

theorem aside_postPoints {set : Customer → Customer} {row : LoyaltyTransaction} :
    Aside (Loyalty.postPoints set row) := fun _ => ⟨rfl, rfl, rfl, rfl⟩

theorem aside_addOrderEvent {event : OrderEvent} : Aside (addOrderEvent event) :=
  fun _ => ⟨rfl, rfl, rfl, rfl⟩

theorem beside_of_writes {α : Type} {sites : CommitSite → Prop} {x : Handler α}
    (h : Writes sites Aside x) (db : Database) : Beside db.toTables (x.run db).2.toTables :=
  writes_run Beside.refl (fun _ _ _ => Beside.trans) h db

theorem run_now {α : Type} {sites : CommitSite → Prop} {N : Pending → Prop} {x : Handler α}
    (h : Writes sites N x) (db : Database) : (x.run db).2.now = db.now := by
  have htrans (a b c : Database) (hab : b.now = a.now) (hbc : c.now = b.now) : c.now = a.now :=
    hbc.trans hab
  refine Conforms.run_induction (R := fun _ => True) (fun a b => b.now = a.now)
    (fun _ => rfl) htrans (Conforms.mono h ?_ fun _ h => h) db
  rintro site keys write ⟨-, f, -, rfl⟩ a b hw
  exact (Database.write_ok hw).2

structure SetsOrder (orderId : Uuid) (set : Order → Order) (db db' : Database) : Prop where
  orders : db'.orders = db.orders.modify orderId set
  tillSessions : db'.tillSessions = db.tillSessions
  intents : db'.intents = db.intents
  allocations : db'.allocations.map money = db.allocations.map money
  now : db'.now = db.now

structure KeepsColumns (set : Order → Order) : Prop where
  id : ∀ o, key (set o) = key o
  number : ∀ o, some ((set o).businessId, (set o).orderNumber) = some (o.businessId, o.orderNumber)
  idempotencyKey : ∀ o, (set o).idempotencyKey.map (fun raw => ((set o).businessId, raw)) =
    o.idempotencyKey.map fun raw => (o.businessId, raw)
  externalId : ∀ o, (set o).externalOrderId.map (fun raw => ((set o).businessId, (set o).source, raw)) =
    o.externalOrderId.map fun raw => (o.businessId, o.source, raw)
  customerId : ∀ o, (set o).customerId = o.customerId
  tillSessionId : ∀ o, (set o).tillSessionId = o.tillSessionId

theorem holds_setOrder {t : Tables} {orderId : Uuid} {set : Order → Order}
    (hset : KeepsColumns set) (h : ∀ c : Constraint, c.Holds t) :
    ∀ c : Constraint, c.Holds (setOrder orderId set t) := by
  intro c
  have hc := h c
  cases c with
  | ordersPkey => exact (Table.primaryKey_modify hset.id).mpr (h .ordersPkey)
  | uqOrdersBusinessIdOrderNumber =>
      have := h .uqOrdersBusinessIdOrderNumber
      simp only [Constraint.Holds, Table.Unique, setOrder] at this ⊢
      rwa [Table.filterMap_modify hset.number]
  | uqOrdersBusinessIdempotencyKey =>
      have := h .uqOrdersBusinessIdempotencyKey
      simp only [Constraint.Holds, Table.Unique, setOrder] at this ⊢
      rwa [Table.filterMap_modify hset.idempotencyKey]
  | uqOrdersBusinessSourceExternalId =>
      have := h .uqOrdersBusinessSourceExternalId
      simp only [Constraint.Holds, Table.Unique, setOrder] at this ⊢
      rwa [Table.filterMap_modify hset.externalId]
  | fkOrdersCustomerId =>
      intro o ho
      obtain ⟨o₀, ho₀, rfl | rfl⟩ := Table.mem_modify ho
      · exact h .fkOrdersCustomerId o ho₀
      · rw [hset.customerId]
        exact h .fkOrdersCustomerId o₀ ho₀
  | fkOrdersTillSessionId =>
      intro o ho
      obtain ⟨o₀, ho₀, rfl | rfl⟩ := Table.mem_modify ho
      · exact h .fkOrdersTillSessionId o ho₀
      · rw [hset.tillSessionId]
        exact h .fkOrdersTillSessionId o₀ ho₀
  | fkIntentsOrderId =>
      intro i hi o ho
      rw [setOrder, Table.isSome_lookup_modify hset.id]
      exact h .fkIntentsOrderId i hi o ho
  | fkAllocationsOrderId =>
      intro a ha
      rw [setOrder, Table.isSome_lookup_modify hset.id]
      exact h .fkAllocationsOrderId a ha
  | _ => exact hc

theorem holds_addOrderEvent {t : Tables} {event : OrderEvent} (h : ∀ c : Constraint, c.Holds t) :
    ∀ c : Constraint, c.Holds (addOrderEvent event t) := by
  intro c
  have := h c
  cases c <;> exact this

section Effects

variable {α β : Type} {db : Database} {user : AuthUser} {businessId orderId : Uuid}
  {order : Order} {session : Session} {set : Order → Order}

theorem reply_run {wrap : α → Reply} {x : Handler α} {Q : Except Failure α → Database → Prop}
    {r : Except Failure Reply} {db' : Database} (h : x.Ensures db Q)
    (hr : (reply wrap x).run db = (r, db')) : ∃ r', Q r' db' ∧ r = r'.map wrap := by
  unfold reply at hr
  rw [run_bind] at hr
  refine ⟨(x.run db).1, ?_⟩
  unfold Ensures at h
  rcases hx : x.run db with ⟨_ | a, db''⟩ <;> rw [hx] at hr h <;> cases hr <;> exact ⟨h, rfl⟩

theorem setsOrder_of_extends {touched : List RowKey} {db' : Database}
    (hs : (Session.stage {} touched (setOrder orderId set)).Extends Aside session)
    (htables : db'.toTables = session.pending db.toTables) (hnow : db'.now = db.now) :
    SetsOrder orderId set db db' := by
  obtain ⟨f, hf, hpending⟩ := hs
  have hbeside := hf (setOrder orderId set db.toTables)
  have heq : db'.toTables = f (setOrder orderId set db.toTables) := by
    rw [htables, hpending]
    rfl
  rw [← heq] at hbeside
  exact ⟨hbeside.orders, hbeside.tillSessions, hbeside.intents, hbeside.allocations, hnow⟩

theorem SetsOrder.lookup {db' : Database} (h : SetsOrder orderId set db db')
    (hkey : ∀ o, key (set o) = key o) (ho : db.orders.lookup orderId = some order) :
    db'.orders.lookup orderId = some (set order) := by
  rw [h.orders, Table.lookup_modify_self hkey, ho]
  rfl

theorem SetsOrder.lookup_ne {db' : Database} {id : Uuid} (h : SetsOrder orderId set db db')
    (hkey : ∀ o, key (set o) = key o) (hne : id ≠ orderId) :
    db'.orders.lookup id = db.orders.lookup id := by
  rw [h.orders, Table.lookup_modify_ne hkey hne]

theorem refreshOrder_ensures {Q : Except Failure Order → Database → Prop}
    (ho : db.orders.lookup orderId = some order) (hQ : Q (.ok order) db) :
    (refreshOrder orderId).Ensures db Q := by
  refine ensures_bind.mpr (ensures_read.mpr ?_)
  rw [ho]
  exact hQ

theorem loadOrderForUpdate_yields :
    (loadOrderForUpdate businessId orderId).Yields db fun o =>
      db.orders.lookup orderId = some o ∧ o.businessId = businessId := by
  refine yields_seq (S := fun row => row =
    (db.orders.lookup orderId).filter fun o => o.businessId = businessId) (yields_lock rfl) ?_
  rintro row rfl
  refine yields_orFail fun o ho => ?_
  obtain ⟨hlookup, hbusiness⟩ := Option.filter_eq_some_iff.mp ho
  exact ⟨hlookup, of_decide_eq_true hbusiness⟩

theorem lookup_openTillSession {till : TillSession}
    (h : openTillSession businessId db.toTables = some till) :
    db.tillSessions.lookup till.id = some till ∧ till.businessId = businessId ∧
      till.status = .open := by
  have hmem : till ∈ db.tillSessions := List.mem_of_find?_eq_some h
  have hopen := List.find?_some h
  simp only [decide_eq_true_eq] at hopen
  exact ⟨Table.lookup_of_mem (db.valid .tillSessionsPkey) hmem, hopen⟩

theorem lockOpenTill_yields :
    (lockOpenTill businessId).Yields db fun till =>
      till = openTillSession businessId db.toTables := by
  refine yields_seq (S := fun row => row = openTillSession businessId db.toTables)
    (yields_read rfl) ?_
  rintro row rfl
  split
  next hnone => exact yields_done hnone.symm
  next candidate hcandidate =>
    obtain ⟨hlookup, -, hopen⟩ := lookup_openTillSession hcandidate
    refine yields_lock ?_
    simp [hlookup, hopen, hcandidate]

def cashPortion (order : Order) (t : Tables) (requestedCents : Cents) : Cents :=
  match order.paymentMethod with
  | some .cash => requestedCents
  | some .split => min (cashAllocated order.id t) requestedCents
  | _ => 0

theorem computeCashPortion_yields {requestedCents : Cents} :
    (computeCashPortion order requestedCents).Yields db fun cash =>
      cash = cashPortion order db.toTables requestedCents := by
  unfold computeCashPortion
  split
  next hcash => exact yields_done (by simp only [cashPortion, hcash])
  next hsplit =>
    refine yields_seq (S := fun cash => cash = cashAllocated order.id db.toTables)
      (yields_read rfl) ?_
    rintro cash rfl
    exact yields_done (by simp only [cashPortion, hsplit])
  next hcash hsplit =>
    refine yields_done ?_
    unfold cashPortion
    split <;> simp_all

theorem cashAllocated_pos {t : Tables} (h : 0 < cashAllocated orderId t) :
    (orderAllocations orderId t).any fun a => a.paymentMethod = .cash := by
  by_contra hnone
  have hempty : (orderAllocations orderId t).filter (fun a => a.paymentMethod = .cash) = [] := by
    simpa using hnone
  simp [cashAllocated, hempty] at h

theorem cashPortion_pos {requestedCents : Cents}
    (h : 0 < cashPortion order db.toTables requestedCents) : hasCash order db.toTables = true := by
  unfold cashPortion at h
  split at h
  next hmethod => simp [hasCash, hmethod]
  next hmethod =>
    have hcash := cashAllocated_pos (lt_of_lt_of_le h (min_le_left _ _))
    simpa [hasCash, hmethod] using hcash
  next => simp at h

theorem refundCash_yields {body : POSRefundRequest} {amountCents : Cents} :
    (refundCash body order amountCents).Yields db fun cash =>
      (amountCents = order.totalCents → cash = cashPortion order db.toTables amountCents) ∧
        (0 < cash → hasCash order db.toTables = true) := by
  unfold refundCash
  split
  next hallocated =>
    obtain ⟨hne, hsplit⟩ := hallocated
    have htaken (cash : Cents) (h : 0 < cash → 0 < cashAllocated order.id db.toTables) :
        (amountCents = order.totalCents → cash = cashPortion order db.toTables amountCents) ∧
          (0 < cash → hasCash order db.toTables = true) :=
      ⟨fun heq => absurd heq hne,
        fun hpos => by simpa [hasCash, hsplit] using cashAllocated_pos (h hpos)⟩
    refine yields_seq (S := fun allocated => allocated.1 = cashAllocated order.id db.toTables)
      (yields_read rfl) ?_
    rintro ⟨cash, nonCash⟩ rfl
    dsimp only
    unfold partialSplitCash
    split
    next hmixed =>
      split
      · exact yields_fail
      · refine yields_seq (S := fun _ => True) readOnly_ensure.yields fun _ _ => ?_
        exact yields_done (htaken _ fun _ => hmixed.1)
    · exact yields_done (htaken _ fun hpos => lt_of_lt_of_le hpos (min_le_left _ _))
  · refine computeCashPortion_yields.mono ?_
    rintro cash rfl
    exact ⟨fun _ => rfl, cashPortion_pos⟩

theorem requireOpenTillForCashReversal_yields :
    (requireOpenTillForCashReversal businessId order).Yields db fun _ =>
      hasCash order db.toTables = true → (openTillSession businessId db.toTables).isSome := by
  refine yields_seq (S := fun cash => cash = hasCash order db.toTables) (yields_read rfl) ?_
  rintro cash rfl
  split
  next hcash => exact yields_done fun h => absurd h hcash
  next =>
    refine yields_seq lockOpenTill_yields ?_
    rintro till rfl
    exact ensure_ok.yields.mono fun _ hopen _ => hopen

theorem loadPosOrderForReversal_yields :
    (loadPosOrderForReversal businessId orderId).Yields db fun o =>
      db.orders.lookup orderId = some o ∧ o.businessId = businessId ∧ o.source = .pos ∧
        o.paymentStatus = .paid := by
  refine yields_seq loadOrderForUpdate_yields fun o ho => ?_
  refine yields_seq ensure_ok.yields fun _ hpos => ?_
  refine yields_seq ensure_ok.yields fun _ hpaid => ?_
  exact yields_done ⟨ho.1, ho.2, hpos, hpaid⟩

structure PosReversal (user : AuthUser) (db : Database) (o : Order)
    (amountCents cashCents : Cents) : Prop where
  business : o.businessId = user.businessId
  source : o.source = .pos
  paid : o.paymentStatus = .paid
  amount : amountCents ≤ o.totalCents
  full : amountCents = o.totalCents → cashCents = cashPortion o db.toTables amountCents
  till : 0 < cashCents → (openTillSession user.businessId db.toTables).isSome

-- What a handler that either fails or settles an order leaves behind.
def Settles (orderId : Uuid) (db : Database) (done : Order → (Order → Order) → Prop)
    (r : Except Failure Order) (db' : Database) : Prop :=
  (∃ e, r = .error e ∧ db' = db) ∨
    ∃ o set, db.orders.lookup orderId = some o ∧ done o set ∧ SetsOrder orderId set db db' ∧
      r = .ok (set o)

theorem settles_error {done : Order → (Order → Order) → Prop} (e : Failure) :
    Settles orderId db done (.error e) db :=
  .inl ⟨e, rfl, rfl⟩

theorem settles_commit {touched : List RowKey} {site : CommitSite}
    {done : Order → (Order → Order) → Prop}
    (hs : (Session.stage {} touched (setOrder orderId set)).Extends Aside session)
    (ho : db.orders.lookup orderId = some order) (hkey : ∀ o, key (set o) = key o)
    (hdone : done order set) :
    ((commit site session).bind fun _ => refreshOrder orderId).Ensures db
      (Settles orderId db done) := by
  refine ensures_bind.mpr (commit_ensures (fun db' htables hnow => ?_) settles_error)
  have hset := setsOrder_of_extends hs htables hnow
  exact refreshOrder_ensures (hset.lookup hkey ho) (.inr ⟨order, set, ho, hdone, hset, rfl⟩)

-- Beside the orders and the money, and apart from the customers' points.
def Unledgered (f : Pending) : Prop :=
  ∀ t, Beside t (f t) ∧ (f t).loyaltyTransactions = t.loyaltyTransactions ∧
    (f t).customers = t.customers

theorem unledgered_neutral : Neutral Unledgered where
  id t := ⟨Beside.refl t, rfl, rfl⟩
  comp f _ hf hg t := by
    obtain ⟨hbeside, hledger, hcustomers⟩ := hf t
    obtain ⟨hbeside', hledger', hcustomers'⟩ := hg (f t)
    exact ⟨hbeside.trans hbeside', hledger'.trans hledger, hcustomers'.trans hcustomers⟩

def redemptions (businessId orderId : Uuid) (t : Tables) : List LoyaltyTransaction :=
  t.loyaltyTransactions.filter fun x =>
    x.businessId = businessId ∧ x.orderId = some orderId ∧ x.transactionType = .redeem

def redemptionReversals (businessId orderId : Uuid) (t : Tables) : List LoyaltyTransaction :=
  t.loyaltyTransactions.filter fun x =>
    x.businessId = businessId ∧ x.idempotencyKey = some (.redeemReversal orderId)

-- The row that gives the points of a redemption back.
structure GivesBack (businessId orderId : Uuid) (original row : LoyaltyTransaction) : Prop where
  business : row.businessId = businessId
  order : row.orderId = some orderId
  key : row.idempotencyKey = some (.redeemReversal orderId)
  adjusts : row.transactionType = .adjust
  customer : row.customerId = original.customerId
  points : row.pointsDelta = -original.pointsDelta

inductive Restores (businessId orderId : Uuid) (t : Tables) : List LoyaltyTransaction → Prop where
  | unredeemed (h : redemptions businessId orderId t = []) : Restores businessId orderId t []
  | restored (h : redemptionReversals businessId orderId t ≠ []) :
      Restores businessId orderId t []
  | gives {original row : LoyaltyTransaction}
      (hredeemed : redemptions businessId orderId t = [original])
      (hfresh : redemptionReversals businessId orderId t = [])
      (hrow : GivesBack businessId orderId original row) : Restores businessId orderId t [row]

def RestoresIf (p : Prop) (businessId orderId : Uuid) (t : Tables)
    (rows : List LoyaltyTransaction) : Prop :=
  (p → Restores businessId orderId t rows) ∧ (¬ p → rows = [])

def creditedTo (customerId : Uuid) (rows : List LoyaltyTransaction) : Int :=
  ((rows.filter fun row => row.customerId = customerId).map (·.pointsDelta)).sum

-- Each customer's balance moves by what the rows credit.
def Credits (rows : List LoyaltyTransaction) (t t' : Tables) : Prop :=
  ∀ customerId, (t'.customers.lookup customerId).map (·.loyaltyPointsBalance) =
    (t.customers.lookup customerId).map fun c =>
      c.loyaltyPointsBalance + creditedTo customerId rows

-- What the session stages last is these rows of the points ledger.
structure Posts (db : Database) (rows : List LoyaltyTransaction) (session session' : Session) :
    Prop where
  staged : session.Extends Aside session'
  ledger : (session'.pending db.toTables).loyaltyTransactions =
    (session.pending db.toTables).loyaltyTransactions ++ rows
  credits : Credits rows (session.pending db.toTables) (session'.pending db.toTables)

theorem credits_nil {t : Tables} : Credits [] t t := fun customerId => by
  simp [creditedTo]

theorem posts_nil : Posts db [] session session :=
  ⟨aside_neutral.refl, by simp, credits_nil⟩

theorem posts_stagePoints {set : Customer → Customer} {row : LoyaltyTransaction}
    {customer : Customer} (hset : ∀ c, key (set c) = key c) (hid : customer.id = row.customerId)
    (hlocked : (session.pending db.toTables).customers.lookup row.customerId = some customer)
    (hbalance : row.balanceAfter = customer.loyaltyPointsBalance + row.pointsDelta) :
    Posts db [row] session (Loyalty.stagePoints session set row) := by
  refine ⟨Session.extends_stage aside_postPoints, rfl, fun customerId => ?_⟩
  have hkey (c : Customer) : key { set c with loyaltyPointsBalance := row.balanceAfter } = key c :=
    hset c
  have hlookup : ((Loyalty.stagePoints session set row).pending db.toTables).customers.lookup
      customerId = if customerId = row.customerId then
        ((session.pending db.toTables).customers.lookup row.customerId).map fun c =>
          { set c with loyaltyPointsBalance := row.balanceAfter }
      else (session.pending db.toTables).customers.lookup customerId := Table.lookup_modify hkey
  rw [hlookup]
  split
  next h =>
    subst h
    simp [hlocked, hbalance, creditedTo]
  next h => simp [creditedTo, Ne.symm h]

theorem lockCustomerForBalanceUpdate_yields {customerId : Uuid} :
    (Loyalty.lockCustomerForBalanceUpdate session businessId customerId).Yields db fun customer =>
      (session.pending db.toTables).customers.lookup customerId = some customer := by
  refine yields_seq (S := fun row => ∀ c ∈ row,
    (session.pending db.toTables).customers.lookup customerId = some c)
      (yields_lock fun c hc => ?_) fun row hrow => yields_orFail hrow
  exact (Option.filter_eq_some_iff.mp hc).1

theorem reverseRedemption_posts {notes : Option String} :
    (Loyalty.reverseRedemption session businessId orderId notes).Yields db fun session' =>
      ∃ rows, Restores businessId orderId db.toTables rows ∧ Posts db rows session session' := by
  refine yields_seq scalar_rows fun original horiginal => ?_
  cases original with
  | none => exact yields_done ⟨[], .unredeemed horiginal, posts_nil⟩
  | some original =>
      refine yields_seq scalar_rows fun reversed hreversed => ?_
      cases reversed with
      | some row =>
          refine yields_done ⟨[], .restored ?_, posts_nil⟩
          rw [redemptionReversals, hreversed]
          simp
      | none =>
          have hmem : original ∈ redemptions businessId orderId db.toTables := by
            rw [redemptions, horiginal]
            simp
          refine yields_seq (S := fun _ => True) (yields_read trivial) fun program _ => ?_
          refine yields_seq lockCustomerForBalanceUpdate_yields fun customer hlocked => ?_
          have hid : customer.id = original.customerId := Table.lookup_key hlocked
          refine yields_done ⟨_, .gives horiginal hreversed ⟨rfl, rfl, rfl, rfl, hid, rfl⟩,
            posts_stagePoints (fun _ => rfl) rfl ?_ rfl⟩
          rw [← hid] at hlocked
          exact hlocked

theorem stageWhen_posts {p : Prop} [Decidable p] {notes : Option String} :
    (session.stageWhen p fun session =>
      Loyalty.reverseRedemption session businessId orderId notes).Yields db fun session' =>
        ∃ rows, RestoresIf p businessId orderId db.toTables rows ∧
          Posts db rows session session' := by
  unfold Session.stageWhen
  split
  next h =>
    refine reverseRedemption_posts.mono fun session' hs => ?_
    obtain ⟨rows, hrestores, hposts⟩ := hs
    exact ⟨rows, ⟨fun _ => hrestores, fun hnot => absurd h hnot⟩, hposts⟩
  next h => exact yields_done ⟨[], ⟨fun hp => absurd hp h, fun _ => rfl⟩, posts_nil⟩

-- A till sale that is reversed: the row is set, and the ledger gets the restored points.
structure SaleReversed (user : AuthUser) (orderId : Uuid) (db : Database) (o : Order)
    (set : Order → Order) (restores : Prop) (db' : Database) : Prop where
  order : db.orders.lookup orderId = some o
  business : o.businessId = user.businessId
  source : o.source = .pos
  paid : o.paymentStatus = .paid
  till : hasCash o db.toTables = true → (openTillSession user.businessId db.toTables).isSome
  sets : SetsOrder orderId set db db'
  ledger : ∃ rows, RestoresIf restores user.businessId orderId db.toTables rows ∧
    db'.loyaltyTransactions = db.loyaltyTransactions ++ rows ∧
      Credits rows db.toTables db'.toTables

def ReversesOr (user : AuthUser) (orderId : Uuid) (db : Database)
    (done : Order → (Order → Order) → Prop → Prop) (r : Except Failure Order) (db' : Database) :
    Prop :=
  (∃ e, r = .error e ∧ db' = db) ∨
    ∃ o set restores, done o set restores ∧ SaleReversed user orderId db o set restores db' ∧
      r = .ok (set o)

theorem reversesOr_error {done : Order → (Order → Order) → Prop → Prop} (e : Failure) :
    ReversesOr user orderId db done (.error e) db :=
  .inl ⟨e, rfl, rfl⟩

theorem reversesOr_commit {touched : List RowKey} {site : CommitSite}
    {done : Order → (Order → Order) → Prop → Prop} {restores : Prop} [Decidable restores]
    {notes : Option String}
    (hs : (Session.stage {} touched (setOrder orderId set)).Extends Unledgered session)
    (ho : db.orders.lookup orderId = some order) (hbusiness : order.businessId = user.businessId)
    (hsource : order.source = .pos) (hpaid : order.paymentStatus = .paid)
    (htill : hasCash order db.toTables = true →
      (openTillSession user.businessId db.toTables).isSome)
    (hkey : ∀ o, key (set o) = key o) (hdone : done order set restores) :
    ((session.stageWhen restores fun session =>
      Loyalty.reverseRedemption session user.businessId orderId notes).bind fun session =>
        (commit site session).bind fun _ => refreshOrder orderId).Ensures db
      (ReversesOr user orderId db done) := by
  refine ensures_seq stageWhen_posts (fun session' hs' => ?_) reversesOr_error
  obtain ⟨rows, hrestores, hposts⟩ := hs'
  have haside : (Session.stage {} touched (setOrder orderId set)).Extends Aside session' := by
    obtain ⟨g, hg, hpending⟩ := hs
    exact aside_neutral.trans ⟨g, fun t => (hg t).1, hpending⟩ hposts.staged
  refine ensures_bind.mpr (commit_ensures (fun db' htables hnow => ?_) reversesOr_error)
  have hset := setsOrder_of_extends haside htables hnow
  refine refreshOrder_ensures (hset.lookup hkey ho) (.inr ⟨order, set, restores, hdone, ?_, rfl⟩)
  obtain ⟨g, hg, hpending⟩ := hs
  obtain ⟨-, hledger, hcustomers⟩ := hg ((Session.stage {} touched
    (setOrder orderId set)).pending db.toTables)
  have hbefore : session.pending db.toTables = g ((Session.stage {} touched
      (setOrder orderId set)).pending db.toTables) := congrFun hpending db.toTables
  rw [← hbefore] at hledger hcustomers
  refine ⟨ho, hbusiness, hsource, hpaid, htill, hset, rows, hrestores, ?_, ?_⟩
  · rw [congrArg Tables.loyaltyTransactions htables, hposts.ledger, hledger]
    rfl
  · have hcredits := hposts.credits
    rw [← htables] at hcredits
    intro customerId
    rw [hcredits customerId, hcustomers]
    rfl

theorem unledgered_flagProviderRefundPending {ids : List (Uuid × Nat)} :
    Unledgered (flagProviderRefundPending ids) :=
  fun t => ⟨aside_flagProviderRefundPending t, rfl, rfl⟩

theorem unledgered_appendMovements {movements : List StockMovement} :
    Unledgered (Inventory.appendMovements movements) :=
  fun t => ⟨aside_appendMovements t, rfl, rfl⟩

def refundRestores (body : POSRefundRequest) (o : Order) : Prop :=
  body.amountCents.getD o.totalCents = o.totalCents ∧ body.restoreLoyaltyPoints = true ∧
    o.loyaltyRewardId.isSome = true

theorem refundPosOrder_reverses {body : POSRefundRequest} {C : Order → Cents → Prop}
    (hcash : ∀ o, (refundCash body o (body.amountCents.getD o.totalCents)).Yields db (C o)) :
    (refundPosOrder user orderId body).Ensures db (ReversesOr user orderId db
      fun o set restores => body.amountCents.getD o.totalCents ≤ o.totalCents ∧
        (restores ↔ refundRestores body o) ∧
          ∃ cash, C o cash ∧ set = markRefunded body (body.amountCents.getD o.totalCents) cash
            (body.amountCents.getD o.totalCents = o.totalCents) db.now) := by
  refine ensures_seq readOnly_requirePosEnabled.yields (fun _ _ => ?_) reversesOr_error
  refine ensures_seq readOnly_requireOwnerOrManager.yields (fun _ _ => ?_) reversesOr_error
  refine ensures_seq loadPosOrderForReversal_yields (fun o ho => ?_) reversesOr_error
  obtain ⟨hlookup, hbusiness, hsource, hpaid⟩ := ho
  refine ensures_seq requireOpenTillForCashReversal_yields (fun _ htill => ?_) reversesOr_error
  refine ensures_seq ensure_ok.yields (fun _ hamount => ?_) reversesOr_error
  refine ensures_seq (hcash o) (fun cash hcash => ?_) reversesOr_error
  refine ensures_seq (R := fun now => now = db.now) (yields_read rfl) ?_ reversesOr_error
  rintro now rfl
  refine ensures_seq (flagPayByLinkProviderRefundPending_stages unledgered_neutral
    fun _ => unledgered_flagProviderRefundPending).yields (fun session hs => ?_) reversesOr_error
  refine ensures_seq (readOnly_stageWhen unledgered_neutral (reverseStock_stages
    unledgered_neutral fun _ => unledgered_appendMovements)).yields (fun session' hs' => ?_)
    reversesOr_error
  refine reversesOr_commit (unledgered_neutral.trans hs hs') hlookup hbusiness hsource hpaid
    htill (fun _ => rfl) ⟨hamount, ?_, cash, hcash, rfl⟩
  simp [refundRestores]

theorem voidPosOrder_reverses {reason : String} :
    (voidPosOrder user orderId reason).Ensures db (ReversesOr user orderId db
      fun o set restores => (restores ↔ o.loyaltyRewardId.isSome = true) ∧
        set = markVoided user.userId reason o.totalCents
          (cashPortion o db.toTables o.totalCents) db.now) := by
  refine ensures_seq readOnly_requirePosEnabled.yields (fun _ _ => ?_) reversesOr_error
  refine ensures_seq readOnly_requireOwnerOrManager.yields (fun _ _ => ?_) reversesOr_error
  refine ensures_seq loadPosOrderForReversal_yields (fun o ho => ?_) reversesOr_error
  obtain ⟨hlookup, hbusiness, hsource, hpaid⟩ := ho
  refine ensures_seq requireOpenTillForCashReversal_yields (fun _ htill => ?_) reversesOr_error
  refine ensures_seq computeCashPortion_yields ?_ reversesOr_error
  rintro cash rfl
  refine ensures_seq (R := fun now => now = db.now) (yields_read rfl) ?_ reversesOr_error
  rintro now rfl
  refine ensures_seq (flagPayByLinkProviderRefundPending_stages unledgered_neutral
    fun _ => unledgered_flagProviderRefundPending).yields (fun session hs => ?_) reversesOr_error
  refine ensures_seq (reverseStock_stages unledgered_neutral
    fun _ => unledgered_appendMovements).yields (fun session' hs' => ?_) reversesOr_error
  exact reversesOr_commit (unledgered_neutral.trans hs hs') hlookup hbusiness hsource hpaid
    htill (fun _ => rfl) ⟨Iff.rfl, rfl⟩

theorem ReversesOr.settles {done : Order → (Order → Order) → Prop → Prop}
    {done' : Order → (Order → Order) → Prop} {r : Except Failure Order} {db' : Database}
    (h : ReversesOr user orderId db done r db')
    (hdone : ∀ o set restores, done o set restores →
      SaleReversed user orderId db o set restores db' → done' o set) :
    Settles orderId db done' r db' := by
  rcases h with h | ⟨o, set, restores, hd, hreverses, rfl⟩
  · exact .inl h
  · exact .inr ⟨o, set, hreverses.order, hdone o set restores hd hreverses, hreverses.sets, rfl⟩

theorem refundPosOrder_ensures {body : POSRefundRequest} :
    (refundPosOrder user orderId body).Ensures db (Settles orderId db fun o set =>
      ∃ cash, PosReversal user db o (body.amountCents.getD o.totalCents) cash ∧
        set = markRefunded body (body.amountCents.getD o.totalCents) cash
          (body.amountCents.getD o.totalCents = o.totalCents) db.now) := by
  refine Ensures.mono (refundPosOrder_reverses fun o => refundCash_yields) fun r db' h => ?_
  refine h.settles ?_
  rintro o set restores ⟨hamount, -, cash, hcash, rfl⟩ hreverses
  exact ⟨cash, ⟨hreverses.business, hreverses.source, hreverses.paid, hamount, hcash.1,
    fun hpos => hreverses.till (hcash.2 hpos)⟩, rfl⟩

theorem voidPosOrder_ensures {reason : String} :
    (voidPosOrder user orderId reason).Ensures db (Settles orderId db fun o set =>
      ∃ cash, PosReversal user db o o.totalCents cash ∧
        set = markVoided user.userId reason o.totalCents cash db.now) := by
  refine Ensures.mono voidPosOrder_reverses fun r db' h => ?_
  refine h.settles ?_
  rintro o set restores ⟨-, rfl⟩ hreverses
  exact ⟨_, ⟨hreverses.business, hreverses.source, hreverses.paid, le_refl _, fun _ => rfl,
    fun hpos => hreverses.till (cashPortion_pos hpos)⟩, rfl⟩

theorem SetsOrder.beside {db' db'' : Database} (h : SetsOrder orderId set db db')
    (hbeside : Beside db'.toTables db''.toTables) (hnow : db''.now = db'.now) :
    SetsOrder orderId set db db'' :=
  ⟨hbeside.orders.trans h.orders, hbeside.tillSessions.trans h.tillSessions,
    hbeside.intents.trans h.intents, hbeside.allocations.trans h.allocations, hnow.trans h.now⟩

theorem aside_ensures {sites : CommitSite → Prop} {x : Handler α}
    {Q : Except Failure α → Database → Prop} (h : Writes sites Aside x)
    (hQ : ∀ r db', Beside db.toTables db'.toTables → db'.now = db.now → Q r db') :
    x.Ensures db Q :=
  hQ _ _ (beside_of_writes h db) (run_now h db)

theorem awardLoyaltyPointsIfEnabled_aside :
    Writes (fun _ => True) Aside (Loyalty.awardLoyaltyPointsIfEnabled businessId order) :=
  Loyalty.awardLoyaltyPointsIfEnabled_writes aside_neutral trivial fun _ _ _ _ => aside_postPoints

theorem awardLoyaltyPointsIfEnabled_ok :
    ((Loyalty.awardLoyaltyPointsIfEnabled businessId order).run db).1 = .ok () := by
  unfold Loyalty.awardLoyaltyPointsIfEnabled
  split
  · rfl
  · simp [run_bind]

theorem awardLoyaltyPointsIfEnabled_keeps {I : Tables → Prop}
    {Q : Except Failure Unit → Database → Prop} (hI : I db.toTables)
    (hearn : ∀ set row, Loyalty.Earning row → Preserves I (Loyalty.postPoints set row))
    (hQ : ∀ db', Beside db.toTables db'.toTables → I db'.toTables → db'.now = db.now →
      Q (.ok ()) db') :
    (Loyalty.awardLoyaltyPointsIfEnabled businessId order).Ensures db Q := by
  have hkept : Writes (fun _ => True) (Preserves I)
      (Loyalty.awardLoyaltyPointsIfEnabled businessId order) :=
    Loyalty.awardLoyaltyPointsIfEnabled_writes preserves_neutral trivial
      fun set row hrow _ => hearn set row hrow
  unfold Ensures
  rw [awardLoyaltyPointsIfEnabled_ok]
  exact hQ _ (beside_of_writes awardLoyaltyPointsIfEnabled_aside db) (preserves_run hkept hI)
    (run_now awardLoyaltyPointsIfEnabled_aside db)

theorem awardLoyaltyPointsIfEnabled_ensures {Q : Except Failure Unit → Database → Prop}
    (hQ : ∀ db', Beside db.toTables db'.toTables → db'.now = db.now → Q (.ok ()) db') :
    (Loyalty.awardLoyaltyPointsIfEnabled businessId order).Ensures db Q :=
  awardLoyaltyPointsIfEnabled_keeps (I := fun _ => True) trivial (fun _ _ _ _ _ => trivial)
    fun db' hbeside _ hnow => hQ db' hbeside hnow

theorem loadOrder_yields :
    (RoutesOrders.loadOrder businessId orderId).Yields db fun o =>
      db.orders.lookup orderId = some o ∧ o.businessId = businessId := by
  refine yields_seq (S := fun row => row =
    (db.orders.lookup orderId).filter fun o => o.businessId = businessId) (yields_read rfl) ?_
  rintro row rfl
  refine yields_orFail fun o ho => ?_
  obtain ⟨hlookup, hbusiness⟩ := Option.filter_eq_some_iff.mp ho
  exact ⟨hlookup, of_decide_eq_true hbusiness⟩

def PaymentRecorded (user : AuthUser) (body : RoutesOrders.PaymentUpdateRequest) (db : Database)
    (o : Order) (set : Order → Order) : Prop :=
  o.businessId = user.businessId ∧ RoutesOrders.isReversal body.paymentStatus = false ∧
    set = RoutesOrders.recordPayment body o db.now

theorem updatePaymentStatus_ensures {body : RoutesOrders.PaymentUpdateRequest} :
    (RoutesOrders.updatePaymentStatus user orderId body).Ensures db
      (Settles orderId db (PaymentRecorded user body db)) := by
  refine ensures_seq readOnly_requireStaffOrAbove.yields (fun _ _ => ?_) settles_error
  refine ensures_seq loadOrder_yields (fun o ho => ?_) settles_error
  obtain ⟨hlookup, hbusiness⟩ := ho
  refine ensures_seq ensure_ok.yields (fun _ hreversal => ?_) settles_error
  refine ensures_seq readOnly_ensure.yields (fun _ _ => ?_) settles_error
  refine ensures_seq (R := fun now => now = db.now) (yields_read rfl) ?_ settles_error
  rintro now rfl
  have hstage (session : Session) : (pure (session.stage [] (addOrderEvent
      ⟨orderId, user.businessId, some o.status, o.status, some user.userId,
        some (RoutesOrders.manualPaymentReason body)⟩)) : Handler Session).ReadOnly
      (session.Extends Aside) := Session.extends_stage aside_addOrderEvent
  refine ensures_seq (readOnly_stageWhen aside_neutral (hstage _)).yields
    (fun session hs => ?_) settles_error
  refine ensures_bind.mpr (commit_ensures (fun db' htables hnow => ?_) settles_error)
  have hset := setsOrder_of_extends hs htables hnow
  have hdone : PaymentRecorded user body db o (RoutesOrders.recordPayment body o db.now) :=
    ⟨hbusiness, by simpa using hreversal, rfl⟩
  refine ensures_bind.mpr (refreshOrder_ensures (hset.lookup (fun _ => rfl) hlookup) ?_)
  dsimp only
  split
  · refine ensures_bind.mpr (awardLoyaltyPointsIfEnabled_ensures fun db'' hbeside hnow' => ?_)
    exact .inr ⟨o, _, hlookup, hdone, hset.beside hbeside hnow', rfl⟩
  · exact .inr ⟨o, _, hlookup, hdone, hset, rfl⟩

def isRecorded (body : RoutesOrders.RefundRequest) (result : RoutesOrders.RefundResult) : Bool :=
  body.confirmManual || (result.success && result.status = .completed)

def RefundRecorded (user : AuthUser) (body : RoutesOrders.RefundRequest)
    (result : RoutesOrders.RefundResult) (db : Database) (o : Order) (set : Order → Order) : Prop :=
  isRecorded body result = true ∧ o.businessId = user.businessId ∧ o.paymentStatus = .paid ∧
    body.amountCents.getD o.totalCents ≤ o.totalCents ∧
    ∃ status reference, RoutesOrders.isReversal status = true ∧
      set = RoutesOrders.recordRefund status (body.amountCents.getD o.totalCents) reference db.now

-- The status that the dashboard records: only a manual confirmation looks at the amount.
def dashboardStatus (body : RoutesOrders.RefundRequest) (o : Order) : PaymentStatus :=
  if body.confirmManual ∧ body.amountCents.getD o.totalCents ≠ o.totalCents then .partiallyRefunded
  else .refunded

structure RecordedAs (user : AuthUser) (body : RoutesOrders.RefundRequest)
    (result : RoutesOrders.RefundResult) (db : Database) (o : Order) (set : Order → Order) :
    Prop where
  recorded : isRecorded body result = true
  business : o.businessId = user.businessId
  paid : o.paymentStatus = .paid
  amount : body.amountCents.getD o.totalCents ≤ o.totalCents
  sets : ∃ reference, set = RoutesOrders.recordRefund (dashboardStatus body o)
    (body.amountCents.getD o.totalCents) reference db.now

def RefundSettles (user : AuthUser) (orderId : Uuid) (body : RoutesOrders.RefundRequest)
    (result : RoutesOrders.RefundResult) (db : Database) (r : Except Failure Order)
    (db' : Database) : Prop :=
  (isRecorded body result = false ∧ Beside db.toTables db'.toTables ∧ db'.now = db.now) ∨
    Settles orderId db (RefundRecorded user body result db) r db'

def RecordsOr (user : AuthUser) (orderId : Uuid) (body : RoutesOrders.RefundRequest)
    (result : RoutesOrders.RefundResult) (db : Database) (r : Except Failure Order)
    (db' : Database) : Prop :=
  (isRecorded body result = false ∧ Beside db.toTables db'.toTables ∧ db'.now = db.now) ∨
    Settles orderId db (RecordedAs user body result db) r db'

theorem recordsOr_error {body : RoutesOrders.RefundRequest}
    {result : RoutesOrders.RefundResult} (e : Failure) :
    RecordsOr user orderId body result db (.error e) db :=
  .inr (settles_error e)

theorem refundAmount_yields {body : RoutesOrders.RefundRequest} :
    (RoutesOrders.refundAmount body order).Yields db fun amountCents =>
      amountCents = body.amountCents.getD order.totalCents ∧
        body.amountCents.getD order.totalCents ≤ order.totalCents :=
  yields_seq ensure_ok.yields fun _ hamount => yields_done ⟨rfl, hamount⟩

theorem confirmManualRefund_ensures {body : RoutesOrders.RefundRequest}
    {result : RoutesOrders.RefundResult} (ho : db.orders.lookup orderId = some order)
    (hbusiness : order.businessId = user.businessId) (hmanual : body.confirmManual = true) :
    (RoutesOrders.confirmManualRefund user order body).Ensures db
      (Settles orderId db (RecordedAs user body result db)) := by
  have hid : order.id = orderId := Table.lookup_key ho
  refine ensures_seq readOnly_ensure.yields (fun _ _ => ?_) settles_error
  refine ensures_seq ensure_ok.yields (fun _ hpaid => ?_) settles_error
  refine ensures_seq refundAmount_yields ?_ settles_error
  rintro amountCents ⟨rfl, hamount⟩
  refine ensures_seq (R := fun now => now = db.now) (yields_read rfl) ?_ settles_error
  rintro now rfl
  rw [hid]
  refine settles_commit (Session.extends_stage aside_addOrderEvent) ho (fun _ => rfl) ?_
  have hstatus : dashboardStatus body order =
      if decide (body.amountCents.getD order.totalCents = order.totalCents) = true then .refunded
      else .partiallyRefunded := by
    simp [dashboardStatus, hmanual]
  exact ⟨by simp [isRecorded, hmanual], hbusiness, hpaid, hamount, body.reference,
    by rw [hstatus]⟩

theorem providerRefund_ensures {body : RoutesOrders.RefundRequest}
    {result : RoutesOrders.RefundResult} (ho : db.orders.lookup orderId = some order)
    (hbusiness : order.businessId = user.businessId) (hmanual : body.confirmManual = false) :
    (RoutesOrders.providerRefund user order body result).Ensures db
      (RecordsOr user orderId body result db) := by
  have hid : order.id = orderId := Table.lookup_key ho
  refine ensures_seq ensure_ok.yields (fun _ hpaid => ?_) recordsOr_error
  refine ensures_seq refundAmount_yields ?_ recordsOr_error
  rintro amountCents ⟨rfl, hamount⟩
  refine ensures_seq readOnly_loadBusiness.yields (fun _ _ => ?_) recordsOr_error
  refine ensures_seq readOnly_ensure.yields (fun _ _ => ?_) recordsOr_error
  refine ensures_seq (R := fun now => now = db.now) (yields_read rfl) ?_ recordsOr_error
  rintro now rfl
  rw [hid]
  by_cases hcompleted : result.success ∧ result.status = .completed
  · refine Ensures.mono ?_ fun _ _ => .inr
    simp only [Session.stageWhen, hcompleted, and_self, if_true]
    refine settles_commit aside_neutral.refl ho (fun _ => rfl) ?_
    have hrecorded : isRecorded body result = true := by simp [isRecorded, hcompleted]
    exact ⟨hrecorded, hbusiness, hpaid, hamount, result.providerReference,
      by simp [dashboardStatus, hmanual]⟩
  · have hrecorded : isRecorded body result = false := by
      simpa [isRecorded, hmanual] using hcompleted
    simp only [Session.stageWhen, hcompleted, if_false]
    have hwrites : Writes (fun _ => True) Aside
        ((commit (.refundOrderPayment orderId) {}).bind fun _ => refreshOrder orderId) :=
      writes_bind (writes_commit trivial aside_neutral.refl) fun _ =>
        writes_readOnly readOnly_refreshOrder
    exact aside_ensures hwrites fun r db' hbeside hnow => .inl ⟨hrecorded, hbeside, hnow⟩

theorem refundOrderPayment_records {body : RoutesOrders.RefundRequest}
    {result : RoutesOrders.RefundResult} :
    (RoutesOrders.refundOrderPayment user orderId body result).Ensures db
      (RecordsOr user orderId body result db) := by
  refine ensures_seq readOnly_requireOwnerOrManager.yields (fun _ _ => ?_) recordsOr_error
  refine ensures_seq loadOrderForUpdate_yields (fun o ho => ?_) recordsOr_error
  obtain ⟨hlookup, hbusiness⟩ := ho
  split
  next hmanual =>
    exact Ensures.mono (confirmManualRefund_ensures hlookup hbusiness hmanual) fun _ _ => .inr
  next hmanual => exact providerRefund_ensures hlookup hbusiness (by simpa using hmanual)

theorem refundOrderPayment_ensures {body : RoutesOrders.RefundRequest}
    {result : RoutesOrders.RefundResult} :
    (RoutesOrders.refundOrderPayment user orderId body result).Ensures db
      (RefundSettles user orderId body result db) := by
  refine Ensures.mono refundOrderPayment_records fun r db' h => h.imp_right fun h => ?_
  rcases h with h | ⟨o, set, ho, hrecorded, hset, hr⟩
  · exact .inl h
  · obtain ⟨reference, hsets⟩ := hrecorded.sets
    refine .inr ⟨o, set, ho, ⟨hrecorded.recorded, hrecorded.business, hrecorded.paid,
      hrecorded.amount, _, reference, ?_, hsets⟩, hset, hr⟩
    unfold dashboardStatus
    split <;> rfl

end Effects

end NextgenBackend
