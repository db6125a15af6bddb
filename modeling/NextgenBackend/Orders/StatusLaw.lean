import NextgenBackend.Bot.PriorOrders
import NextgenBackend.Orders.Commits
import NextgenBackend.Orders.PaymentGate

namespace NextgenBackend.StatusLaw

open Txn Interleaving Inventory Orders

inductive Writes : OrderRequest → Prop
  | updateOrderStatus {user orderId body link} :
      Writes (.updateOrderStatus user orderId body link)
  | setDeliveryFee {user orderId body} : Writes (.setDeliveryFee user orderId body)
  | cancelStaleDeliveryFeeOrders : Writes .cancelStaleDeliveryFeeOrders
  | cancelUnpaidOrders : Writes .cancelUnpaidOrders
  | inboundMessage {message} : Writes (.inboundMessage message)

def Grows {α : Type} (P : α → Prop) (rows rows' : List α) : Prop :=
  ∃ added, rows' = rows ++ added ∧ ∀ row ∈ added, P row

-- Elsewhere orders are placed, and no order's status or the stock it took is touched.
structure StatusesKept (db db' : Database) : Prop where
  statuses : ∀ orderId o, db.orders.lookup orderId = some o →
    ∃ o', db'.orders.lookup orderId = some o' ∧ o'.status = o.status
  returns : Grows (fun m => m.movementType ≠ .saleReversal) db.stockMovements db'.stockMovements

structure Records (t t' : Tables) (event : OrderEvent) : Prop where
  after : ∃ o', t'.orders.lookup event.orderId = some o' ∧ o'.status = event.newStatus
  before : match t.orders.lookup event.orderId with
    | none => event.oldStatus = none
    | some o => o.status ≠ event.newStatus ∧ ∀ status ∈ event.oldStatus, status = o.status

def isCancelled (orderId : Uuid) (t : Tables) : Bool :=
  (t.orders.lookup orderId).any (·.status = .cancelled)

structure Changes (t t' : Tables) : Prop where
  statuses : ∀ orderId o, t.orders.lookup orderId = some o →
    ∃ o', t'.orders.lookup orderId = some o' ∧
      (o'.status = o.status ∨ o'.status ∈ orderStatusTransitions o.status)
  events : Grows (Records t t') t.orderEvents t'.orderEvents
  returns : Grows (fun m => m.movementType = .saleReversal → ∀ orderId, m.sourceId = some orderId →
    isCancelled orderId t' = true) t.stockMovements t'.stockMovements

def movesOf : CommitSite → List StatusMove
  | .updateOrderStatus move _ => [move]
  | .setDeliveryFee orderId _ _ _ => [⟨orderId, some .pendingDeliveryFee, .feeSent, true⟩]
  | .cancelStaleDeliveryFeeOrders moves => moves
  | .cancelUnpaidOrders moves => moves
  | .processMessage _ (some turn) => turn.moves
  | _ => []

-- The UPDATE found its order, still in the status its event tells of, and moves it along an edge.
def isDue (t : Tables) (move : StatusMove) : Bool :=
  move.applied && (t.orders.lookup move.orderId).any fun o =>
    move.after ∈ orderStatusTransitions o.status && move.before.all (· = o.status)

def Meets (site : CommitSite) (db : Database) : Prop :=
  ∀ move ∈ movesOf site, isDue db.toTables move = true

section Steps

variable {t t' : Tables} {moves : List StatusMove} {status : OrderStatus} {f : Pending}

structure Created (t t' : Tables) (event : OrderEvent) : Prop where
  before : event.oldStatus = none
  fresh : t.orders.lookup event.orderId = none
  after : ∃ o', t'.orders.lookup event.orderId = some o' ∧ o'.status = event.newStatus

def Tells (moves : List StatusMove) (event : OrderEvent) : Prop :=
  ∃ move ∈ moves, move = moveOf event move.applied

def Undoes (moves : List StatusMove) (m : StockMovement) : Prop :=
  ∃ move ∈ moves, m.sourceId = some move.orderId ∧ move.after = .cancelled

-- What a commit that takes all its moves to one status has done to the orders.
structure Carried (moves : List StatusMove) (status : OrderStatus) (t t' : Tables) : Prop where
  statuses : ∀ orderId o, t.orders.lookup orderId = some o →
    ∃ o', t'.orders.lookup orderId = some o' ∧
      o'.status = if isMoved moves orderId then status else o.status
  events : Grows (fun event => Tells moves event ∨ Created t t' event) t.orderEvents t'.orderEvents
  returns : Grows (fun m => m.movementType = .saleReversal → Undoes moves m) t.stockMovements
    t'.stockMovements

theorem Grows.refl {α : Type} {P : α → Prop} {rows : List α} : Grows P rows rows :=
  ⟨[], by simp, by simp⟩

theorem Grows.trans {α : Type} {P : α → Prop} {rows rows' rows'' : List α} (h : Grows P rows rows')
    (h' : Grows P rows' rows'') : Grows P rows rows'' := by
  obtain ⟨added, rfl, hadded⟩ := h
  obtain ⟨added', rfl, hadded'⟩ := h'
  refine ⟨added ++ added', List.append_assoc _ _ _, ?_⟩
  intro row hrow
  rcases List.mem_append.mp hrow with h | h
  · exact hadded row h
  · exact hadded' row h

theorem Grows.mono {α : Type} {P P' : α → Prop} {rows rows' : List α} (h : Grows P rows rows')
    (hP : ∀ row, P row → P' row) : Grows P' rows rows' := by
  obtain ⟨added, heq, hadded⟩ := h
  exact ⟨added, heq, fun row hrow => hP row (hadded row hrow)⟩

theorem Tells.left {moves' : List StatusMove} {event : OrderEvent} (h : Tells moves event) :
    Tells (moves ++ moves') event := by
  obtain ⟨move, hmove, heq⟩ := h
  exact ⟨move, List.mem_append_left _ hmove, heq⟩

theorem Tells.right {moves' : List StatusMove} {event : OrderEvent} (h : Tells moves' event) :
    Tells (moves ++ moves') event := by
  obtain ⟨move, hmove, heq⟩ := h
  exact ⟨move, List.mem_append_right _ hmove, heq⟩

theorem Undoes.left {moves' : List StatusMove} {m : StockMovement} (h : Undoes moves m) :
    Undoes (moves ++ moves') m := by
  obtain ⟨move, hmove, hundone⟩ := h
  exact ⟨move, List.mem_append_left _ hmove, hundone⟩

theorem Undoes.right {moves' : List StatusMove} {m : StockMovement} (h : Undoes moves' m) :
    Undoes (moves ++ moves') m := by
  obtain ⟨move, hmove, hundone⟩ := h
  exact ⟨move, List.mem_append_right _ hmove, hundone⟩

theorem Carried.congr {s s' : Tables} (h : Carried moves status t t')
    (hbefore : t.orders = s.orders ∧ t.orderEvents = s.orderEvents ∧
      t.stockMovements = s.stockMovements)
    (hafter : s'.orders = t'.orders ∧ s'.orderEvents = t'.orderEvents ∧
      s'.stockMovements = t'.stockMovements) : Carried moves status s s' := by
  obtain ⟨horders, hevents, hmovements⟩ := hbefore
  obtain ⟨horders', hevents', hmovements'⟩ := hafter
  constructor
  · rw [← horders, horders']
    exact h.statuses
  · rw [← hevents, hevents']
    apply h.events.mono
    rintro event (htells | hcreated)
    · exact .inl htells
    · refine .inr ⟨hcreated.before, ?_, ?_⟩
      · rw [← horders]
        exact hcreated.fresh
      · rw [horders']
        exact hcreated.after
  · rw [← hmovements, hmovements']
    exact h.returns

def Lawful (site : CommitSite) (f : Pending) : Prop :=
  ∀ t, (f t).orders.PrimaryKey → ∃ status, (∀ move ∈ movesOf site, move.after = status) ∧
    Carried (movesOf site) status t (f t)

end Steps

section Runs

variable {ι : Type} [DecidableEq ι] {requests : ι → OrderRequest} {db : Database}

abbrev TimelyRun (c c' : Server ι) : Prop :=
  Reachable StatusesKept (fun c i => c.Meets Meets i) c c'

theorem Changes.refl {t : Tables} : Changes t t :=
  ⟨fun _ o ho => ⟨o, ho, .inl rfl⟩, Grows.refl, Grows.refl⟩

theorem Changes.settled {t t' : Tables} {status : OrderStatus} {orderId : Uuid}
    (h : Changes t t') (hterminal : orderStatusTransitions status = [])
    (ho : ∃ o, t.orders.lookup orderId = some o ∧ o.status = status) :
    ∃ o', t'.orders.lookup orderId = some o' ∧ o'.status = status := by
  obtain ⟨o, ho, rfl⟩ := ho
  obtain ⟨o', ho', hsame | hedge⟩ := h.statuses orderId o ho
  · exact ⟨o', ho', hsame⟩
  · rw [hterminal] at hedge
    cases hedge

end Runs

instance (site : CommitSite) (db : Database) : Decidable (Meets site db) :=
  inferInstanceAs (Decidable (∀ move ∈ movesOf site, _))

def parked : Database where
  businesses :=
    [{ id := 1, whatsappPhoneNumberId := some "100", orderNumberSequence := 1
       onlinePaymentRequired := true }]
  customers :=
    [{ id := 3, businessId := 1, waId := some "27821234567", displayName := some "Thandi"
       phoneNumber := some "27821234567" }]
  orders := [PriorOrders.priorOrder .whatsapp .pendingDeliveryFee .unpaid]
  conversationSessions :=
    [{ PriorOrders.confirming with
       state := .waitingDeliveryFeeApproval
       context := { pendingOrderId := some 5 } }]
  now := 100
  valid := Tables.violation_eq_none.mp (by decide +kernel)

def feeThenApproval : Bool → OrderRequest
  | false => .setDeliveryFee ReversalBalance.owner 5 ⟨2500, by decide⟩
  | true => .inboundMessage PriorOrders.yes

def cancelThenApproval : Bool → OrderRequest
  | false => PaymentGate.moveTo "CANCELLED"
  | true => .inboundMessage PriorOrders.yes

def statusOf (c : Server Bool) (orderId : Uuid) : Option OrderStatus :=
  (c.db.orders.lookup orderId).map (·.status)

end NextgenBackend.StatusLaw
