import NextgenBackend.Bot.PriorOrders
import NextgenBackend.Library.Run
import NextgenBackend.Orders.Commits

namespace NextgenBackend.CancelAnswers

open Txn NextgenBackend.Bot NextgenBackend.Orders PriorOrders

inductive CancelAnswer where
  | callTheStore | cancelled
deriving DecidableEq, Repr

def closedStatuses : List OrderStatus :=
  [.cancelled, .collected, .delivered]

-- Only an order that was placed, by the state and the customer's last order, needs a phone call.
def orderCancel (lastOrder : Option Order) (turn : Turn) : Turn × CancelAnswer :=
  let realOrder := if turn.conversation.state = .orderPlaced then lastOrder else none
  let cleared := (turn.setContext clearCart).to .idle
  match realOrder with
  | some order =>
      if order.status ∉ closedStatuses then (cleared, .callTheStore) else (cleared, .cancelled)
  | none => (cleared, .cancelled)

def clearDraft (draft : Draft) : Draft :=
  (clearCart { draft := draft }).draft

def isCancelChat (draft : Draft) (chat : Chat) : Bool :=
  chat.cleared && chat.draft = clearDraft draft && chat.next = some .idle

-- The branch is taken unless an earlier one has answered the message.
def asksToCancel (reading : Reading) (state : ConversationState) (draft : Draft) : Bool :=
  reading.intent = some .orderCancel && (reading.chat state draft).any (isCancelChat draft)

def speaks (message : InboundMessage) (business : Business) : Bool :=
  message.closedOn.isNone && !business.whatsappPaused

def conversationOf (businessId customerId : Uuid) (db : Database) : ConversationSession :=
  resume db.now ((db.conversationSessions.lookup (businessId, customerId)).getD
    (newConversation businessId customerId db.now))

def served (message : InboundMessage) (db : Database) : Option Surroundings :=
  ((process message).run db).1.toOption.bind fun processed =>
    processed.turn.map MessageTurn.surroundings

def turnBefore (surroundings : Surroundings) (db : Database) : Turn where
  customer := surroundings.customer
  conversation := conversationOf surroundings.business.id surroundings.customer.id db

def cancelRequest (message : InboundMessage) (db : Database) : Option Surroundings :=
  (served message db).filter fun surroundings =>
    let turn := turnBefore surroundings db
    speaks message surroundings.business &&
      asksToCancel message.reading turn.conversation.state turn.draft

def answerTo (message : InboundMessage) (db : Database) : Option CancelAnswer :=
  (cancelRequest message db).map fun surroundings =>
    (orderCancel surroundings.lastOrder (turnBefore surroundings db)).2

def liveStatuses : List OrderStatus :=
  [.pendingDeliveryFee, .feeSent, .new, .accepted, .inProgress, .ready]

def liveOrders (businessId customerId : Uuid) (db : Database) : List Order :=
  db.orders.filter fun o => o.businessId = businessId ∧ o.customerId = some customerId ∧
    o.source = .whatsapp ∧ o.status ∈ liveStatuses

def Truthful (db : Database) (event : Orders.Event) (db' : Database) : Prop :=
  match event with
  | .served (.inboundMessage message) _ => ∀ surroundings ∈ cancelRequest message db,
      answerTo message db = some .cancelled →
        liveOrders surroundings.business.id surroundings.customer.id db' = []
  | _ => True

-- The order that is live is the one that the conversation is known by.
def Recognised (db : Database) (event : Orders.Event) (_ : Database) : Prop :=
  match event with
  | .served (.inboundMessage message) _ => ∀ surroundings ∈ cancelRequest message db,
      liveOrders surroundings.business.id surroundings.customer.id db ≠ [] →
        (turnBefore surroundings db).conversation.state = .orderPlaced ∧
          surroundings.lastOrder.any fun order => order.status ∉ closedStatuses
  | _ => True

section Answers

variable {message : InboundMessage} {business : Business} {customer loaded : Customer}
  {session : Session} {db db' : Database} {surroundings : Surroundings} {turn : Turn}
  {lastOrder : Option Order}

theorem orderCancel_answer : (orderCancel lastOrder turn).2 = .cancelled ↔
    ¬ (turn.conversation.state = .orderPlaced ∧
      lastOrder.any fun order => order.status ∉ closedStatuses) := by
  unfold orderCancel
  by_cases hstate : turn.conversation.state = .orderPlaced
  · cases lastOrder with
    | none => simp [hstate]
    | some order =>
        by_cases hclosed : order.status ∈ closedStatuses <;> simp [hstate, hclosed]
  · simp [hstate]

theorem orderCancel_turn : (orderCancel lastOrder turn).1 = (turn.setContext clearCart).to .idle := by
  unfold orderCancel
  dsimp only
  split
  · split <;> rfl
  · rfl

theorem takeTurn_orderCancel (hspeaks : speaks message surroundings.business)
    (hasks : asksToCancel message.reading (turnBefore surroundings db).conversation.state
      (turnBefore surroundings db).draft) :
    takeTurn message surroundings (turnBefore surroundings db).conversation =
      (orderCancel surroundings.lastOrder (turnBefore surroundings db)).1 := by
  obtain ⟨hopen, hpaused⟩ : message.closedOn = none ∧ surroundings.business.whatsappPaused = false := by
    simpa [speaks] using hspeaks
  obtain ⟨-, hchat⟩ := (Bool.and_eq_true _ _).mp hasks
  obtain ⟨chat, hsome, hcancel⟩ := (Option.any_eq_true _ _).mp hchat
  obtain ⟨⟨hcleared, hdraft⟩, hnext⟩ : (chat.cleared ∧
      chat.draft = clearDraft (turnBefore surroundings db).draft) ∧ chat.next = some .idle := by
    simpa [isCancelChat] using hcancel
  have happly : applyChat chat (turnBefore surroundings db) =
      ((turnBefore surroundings db).setContext clearCart).to .idle := by
    unfold applyChat
    rw [hnext, hdraft, hcleared]
    rfl
  have hmessage : handleMessage surroundings.business message.newOrderId message.ordersAllowed
      surroundings.lastOrder message.reading (turnBefore surroundings db) =
        applyChat chat (turnBefore surroundings db) := by
    unfold handleMessage
    rw [hsome]
  unfold takeTurn
  rw [hopen, orderCancel_turn, ← happly, ← hmessage]
  simp only [hpaused, Bool.false_eq_true, if_false]
  rfl

theorem getOrCreateSession_conversation {businessId customerId : Uuid} (h : Fresh db session) :
    (getOrCreateSession session businessId customerId).Yields db fun resumed =>
      resumed.1 = conversationOf businessId customerId db ∧ Fresh db resumed.2 := by
  unfold getOrCreateSession conversationOf
  apply yields_seq (S := fun now => now = db.now)
  · exact yields_read rfl
  rintro now rfl
  apply yields_seq (S := fun row =>
    row = db.conversationSessions.lookup (businessId, customerId))
  · exact yields_lock rfl
  rintro row rfl
  cases hrow : db.conversationSessions.lookup (businessId, customerId) with
  | some conversation => exact yields_done ⟨rfl, h⟩
  | none => exact yields_done ⟨rfl, h.stage _ fun _ => rfl⟩

-- A turn without an effect leaves the orders as they were.
def Served (message : InboundMessage) (db : Database) (processed : Processed) : Prop :=
  ∀ served ∈ processed.turn, (takeTurn message served.surroundings
    (turnBefore served.surroundings db).conversation).effect = none → Fresh db processed.session

theorem converse_served (h : Fresh db session) :
    (converse session message business loaded customer).Yields db (Served message db) := by
  unfold converse
  apply yields_seq (getOrCreateSession_conversation h)
  rintro ⟨conversation, session⟩ ⟨hconversation, hfresh⟩
  apply yields_seq readOnly_lock.yields
  intro _ _
  apply yields_seq readOnly_read.yields
  intro lastOrder _
  dsimp only at hconversation ⊢
  subst hconversation
  generalize hturn : takeTurn message ⟨_, business, customer, lastOrder⟩ _ = turn
  apply yields_seq (S := fun written => turn.effect = none → Fresh db written.1)
  · by_cases hnone : turn.effect = none
    · unfold perform
      rw [hnone]
      exact yields_done fun _ => hfresh
    · exact perform_turns.yields.mono fun _ _ heffect => absurd heffect hnone
  rintro ⟨session, moves⟩ hs
  apply yields_done
  rintro _ ⟨⟩ heffect
  have hnone : turn.effect = none := by
    rw [← hturn]
    exact heffect
  exact ((hs hnone).stage _ sameOrders_setConversation).stage _ sameOrders_setCustomer

theorem process_served : (process message).Yields db (Served message db) := by
  have hsilent (session : Session) : Served message db { session := session } := by
    rintro _ ⟨⟩
  unfold process
  apply yields_seq (S := fun _ => True) (yields_read trivial)
  intro found _
  cases found with
  | none => exact yields_done (hsilent {})
  | some business =>
      dsimp only
      split
      · exact yields_done (hsilent {})
      · apply yields_seq getOrCreateCustomer_fresh
        rintro ⟨loaded, session⟩ ⟨-, hs⟩
        apply yields_seq readOnly_readNow.yields
        intro now _
        apply yields_seq readOnly_lock.yields
        intro taken _
        dsimp only at hs ⊢
        split
        · exact yields_done (hsilent _)
        · split
          · exact yields_done (hsilent _)
          · split
            · exact yields_done (hsilent _)
            · split
              · exact yields_done (hsilent _)
              · apply converse_served
                exact (hs.stage [] (sameOrders_insertMessage _)).stage []
                  (sameOrders_persistInbound message)

theorem cancelRequest_some (h : cancelRequest message db = some surroundings) :
    ∃ processed turn, (process message).run db = (.ok processed, db) ∧
      processed.turn = some turn ∧ turn.surroundings = surroundings ∧
      speaks message surroundings.business ∧
      asksToCancel message.reading (turnBefore surroundings db).conversation.state
        (turnBefore surroundings db).draft := by
  obtain ⟨hserved, hasks⟩ := Option.filter_eq_some_iff.mp h
  obtain ⟨processed, hok, hturn⟩ := Option.bind_eq_some_iff.mp hserved
  obtain ⟨turn, hsome, rfl⟩ := Option.map_eq_some_iff.mp hturn
  obtain ⟨hspeaks, hasks⟩ := (Bool.and_eq_true _ _).mp hasks
  refine ⟨processed, turn, ?_, hsome, rfl, hspeaks, hasks⟩
  have hsame : ((process message).run db).2 = db := process_served.1
  cases hrun : (process message).run db with
  | mk result db' =>
      rw [hrun] at hok hsame
      cases result with
      | error e => simp [Except.toOption] at hok
      | ok processed' =>
          obtain rfl : processed' = processed := by simpa [Except.toOption] using hok
          rw [show db' = db from hsame]

-- The branch clears the draft and leaves every order as it is.
theorem cancelRequest_orders (h : cancelRequest message db = some surroundings) :
    ((processInboundMessage message).run db).2.orders = db.orders := by
  obtain ⟨processed, turn, hrun, hturn, rfl, hspeaks, hasks⟩ := cancelRequest_some h
  have heffect : (takeTurn message turn.surroundings
      (turnBefore turn.surroundings db).conversation).effect = none := by
    rw [takeTurn_orderCancel hspeaks hasks, orderCancel_turn]
    rfl
  have hfresh : Fresh db processed.session := by
    have hserved : (process message).Yields db (Served message db) := process_served
    unfold Yields Ensures at hserved
    rw [hrun] at hserved
    exact hserved.2 processed rfl turn hturn heffect
  have hensures : (processInboundMessage message).Ensures db fun _ db' => db'.orders = db.orders := by
    have hprocess : (process message).Ensures db fun r db' => r = .ok processed ∧ db' = db := by
      unfold Ensures
      rw [hrun]
      exact ⟨rfl, rfl⟩
    apply ensures_bind.mpr
    apply ensures_attempt.mpr
    apply hprocess.mono
    rintro r db' ⟨rfl, rfl⟩
    apply ensures_bind.mpr
    apply ensures_tryCommit.mpr
    constructor
    · intro db'' hwrite
      show db''.orders = db'.orders
      rw [(Database.write_ok hwrite).1]
      exact hfresh
    · intro e _
      rfl
  exact hensures

theorem liveOrders_congr {businessId customerId : Uuid} (h : db'.orders = db.orders) :
    liveOrders businessId customerId db' = liveOrders businessId customerId db := by
  unfold liveOrders
  rw [h]

theorem answerTo_cancelled (h : cancelRequest message db = some surroundings) :
    answerTo message db = some .cancelled ↔
      ¬ ((turnBefore surroundings db).conversation.state = .orderPlaced ∧
        surroundings.lastOrder.any fun order => order.status ∉ closedStatuses) := by
  unfold answerTo
  rw [h, Option.map_some, Option.some.injEq, orderCancel_answer]

theorem truthful_iff {event : Orders.Event} {env : Database → Database → Prop}
    (h : Orders.Next (fun _ => True) env db event db') :
    Truthful db event db' ↔ Recognised db event db' := by
  cases event with
  | environment => rfl
  | served request reply =>
      obtain ⟨-, hrun⟩ := h
      cases request with
      | inboundMessage message =>
          have hafter : db' = ((processInboundMessage message).run db).2 := by
            have hensures : (processInboundMessage message).Ensures db fun _ db' =>
                db' = ((processInboundMessage message).run db).2 := rfl
            exact wrap_run (Q := fun db' => db' = ((processInboundMessage message).run db).2)
              hensures hrun
          have hrequest (surroundings : Surroundings)
              (hsome : surroundings ∈ cancelRequest message db) :
              (answerTo message db = some .cancelled →
                  liveOrders surroundings.business.id surroundings.customer.id db' = []) ↔
                (liveOrders surroundings.business.id surroundings.customer.id db ≠ [] →
                  (turnBefore surroundings db).conversation.state = .orderPlaced ∧
                    surroundings.lastOrder.any fun order => order.status ∉ closedStatuses) := by
            have horders : db'.orders = db.orders := by
              rw [hafter]
              exact cancelRequest_orders hsome
            rw [answerTo_cancelled hsome, liveOrders_congr horders]
            exact not_imp_comm
          exact forall₂_congr hrequest
      | _ => rfl

theorem cancel_answers_truthful_iff (env : Database → Database → Prop) (db : Database)
    (steps : List (Orders.Event × Database))
    (hrun : Run.Along (Orders.Next (fun _ => True) env) db steps) :
    Run.Along Truthful db steps ↔ Run.Along Recognised db steps := by
  constructor
  · intro h
    exact (hrun.and h).mono fun _ _ _ hstep => (truthful_iff hstep.1).mp hstep.2
  · intro h
    exact (hrun.and h).mono fun _ _ _ hstep => (truthful_iff hstep.1).mpr hstep.2

end Answers

instance (db : Database) (event : Orders.Event) (db' : Database) :
    Decidable (Truthful db event db') := by
  unfold Truthful
  split <;> infer_instance

instance (db : Database) (event : Orders.Event) (db' : Database) :
    Decidable (Recognised db event db') := by
  unfold Recognised
  split <;> infer_instance

def emptyCafe : Database where
  toTables := { cafe (priorOrder .whatsapp .new .pending) with orders := [] }
  now := 100
  valid := Tables.violation_eq_none.mp (by decide +kernel)

def greets (draft : Draft) : Chat where
  cleared := false
  draft := draft
  next := some .greeting
  nextChats := by decide

def cancels (draft : Draft) : Chat where
  cleared := true
  draft := clearDraft draft
  next := some .idle
  nextChats := by decide

def hello : InboundMessage :=
  { yes with
    waMessageId := "wamid.2"
    newOrderId := 22
    reading := { yes.reading with
      text := "hello", intent := some .greeting, confirms := false
      chat := fun _ draft => some (greets draft) } }

def cancelMyOrder : InboundMessage :=
  { yes with
    waMessageId := "wamid.3"
    newOrderId := 23
    reading := { yes.reading with
      text := "cancel my order", intent := some .orderCancel, confirms := false
      chat := fun _ draft => some (cancels draft) } }

def talk (messages : List InboundMessage) : List (Orders.Event × Database) :=
  Orders.played emptyCafe (messages.map .inboundMessage)

theorem talk_along (messages : List InboundMessage) :
    Run.Along (Orders.Next (fun _ => True) fun _ _ => False) emptyCafe (talk messages) :=
  Orders.along_played fun _ _ => trivial

theorem placed_order_needs_a_call :
    answerTo cancelMyOrder (Run.last emptyCafe (talk [yes])) = some .callTheStore ∧
    Run.Along Truthful emptyCafe (talk [yes, cancelMyOrder]) := by
  constructor
  · decide +kernel
  · exact (cancel_answers_truthful_iff (fun _ _ => False) emptyCafe (talk [yes, cancelMyOrder])
      (talk_along _)).mpr (by decide +kernel)

theorem cancelled_after_hello : ∃ steps,
    Run.Along (Orders.Next (fun _ => True) fun _ _ => False) emptyCafe steps ∧
    ¬ Run.Along Truthful emptyCafe steps := by
  have hfalse : ¬ Run.Along Truthful emptyCafe (talk [yes, hello, cancelMyOrder]) := by
    decide +kernel
  exact ⟨talk [yes, hello, cancelMyOrder], talk_along _, hfalse⟩

end NextgenBackend.CancelAnswers
