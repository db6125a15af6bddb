import NextgenBackend.Core.Errors
import NextgenBackend.Library.Interleaving

namespace NextgenBackend

structure DeliveryKey where
  businessId : Uuid
  provider : String
  externalOrderId : String
deriving DecidableEq, Repr

inductive RowKey where
  | business (id : Uuid)
  | customer (id : Uuid)
  | tillSession (id : Uuid)
  | order (id : Uuid)
  | intent (id : Uuid)
  | stocktakeSession (id : Uuid)
  | waCustomer (businessId : Uuid) (waId : String)
  | waMessage (id : String)
  | conversation (businessId customerId : Uuid)
  | dailyUsage (businessId : Uuid) (day : Int)
  | deliveryWebhookEvent (provider eventId : String)
  | newDeliveryOrder (order : DeliveryKey)
  | deliveryOrder (id : Uuid)
deriving DecidableEq, Repr

structure Amounts where
  deliveryFeeCents : Cents
  totalCents : Cents
  taxCents : Cents
deriving DecidableEq, Repr

def Order.amounts (o : Order) : Amounts where
  deliveryFeeCents := o.deliveryFeeCents
  totalCents := o.totalCents
  taxCents := o.taxCents

-- A change of an order's status as its event tells it, and whether its UPDATE found the row.
structure StatusMove where
  orderId : Uuid
  before : Option OrderStatus
  after : OrderStatus
  applied : Bool
deriving DecidableEq, Repr

-- Whom staff ask to approve a delivery fee, and that customer's conversation as they read it.
structure FeeOffer where
  businessId : Uuid
  customerId : Uuid
  conversation : Option ConversationSession
deriving DecidableEq, Repr

-- What a message's turn was decided on, besides its text and the conversation.
structure Surroundings where
  now : Instant
  business : Business
  customer : Customer
  lastOrder : Option Order
deriving DecidableEq, Repr

structure MessageTurn where
  surroundings : Surroundings
  moves : List StatusMove
  finalized : Option (Uuid × Cents)
deriving DecidableEq, Repr

structure PlacedOrder where
  status : OrderStatus
  createdAt : Instant
deriving DecidableEq, Repr

-- What a message did to its business's orders, and the day it counted them on if it did.
structure Tally where
  businessId : Uuid := 0
  placed : Option PlacedOrder := none
  finalized : Bool := false
  today : Int := 0
deriving DecidableEq, Repr

inductive CommitSite where
  | markOrderPaid (orderId : Uuid)
  | markIntentPaid (intentId : Uuid)
  | markIntentExpired (intentId : Uuid)
  | awardLoyaltyPoints (orderId : Uuid)
  | updatePaymentStatus (orderId : Uuid) (before : PaymentStatus) (becamePaid : Bool)
  | refundOrderPayment (orderId : Uuid)
  | refundPosOrder (orderId : Uuid)
  | voidPosOrder (orderId : Uuid)
  | confirmPosOrderProviderRefund (orderId : Uuid)
  | createPosOrder (orderId : Uuid)
  | createOrder (orderId : Uuid)
  | createPaymentLinkIntent (intentId : Uuid)
  | getPaymentLinkIntent (intentId : Uuid)
  | resendPaymentLinkIntent (intentId : Uuid)
  | cancelPaymentLinkIntent (intentId : Uuid)
  | openTill (sessionId : Uuid)
  | closeTill (sessionId : Uuid)
  | createLoyaltyProgram (businessId : Uuid)
  | redeemLoyaltyReward (customerId : Uuid)
  | adjustLoyaltyPoints (customerId : Uuid)
  | openStocktake (sessionId : Uuid)
  | submitCounts (sessionId : Uuid)
  | completeStocktake (sessionId : Uuid)
  | approveStocktake (sessionId : Uuid)
  | cancelStocktake (sessionId : Uuid)
  | recordWastage (entryId : Uuid)
  | approveWastage (entryId : Uuid)
  | rejectWastage (entryId : Uuid)
  | createGoodsReceipt (receiptId : Uuid)
  | setOpeningStock (ingredientId : Uuid)
  | createAdjustment (ingredientId : Uuid)
  | createItem (itemId : Uuid)
  | updateItem (itemId : Uuid)
  | attachAddOn (itemId addOnId : Uuid)
  | upsertRecipe (recipeId : Uuid)
  | upsertMapping (mappingId : Uuid)
  | importOrders (orderIds : List Uuid)
  | updateOrderStatus (move : StatusMove) (recordsPending : Bool)
  | storePaymentLink (orderId : Uuid)
  | setDeliveryFee (orderId : Uuid) (before after : Amounts) (offer : Option FeeOffer)
  | cancelStaleDeliveryFeeOrders (moves : List StatusMove)
  | cancelUnpaidOrders (moves : List StatusMove)
  | processMessage (waMessageId : String) (served : Option MessageTurn)
  | meteredMessage (waMessageId : String) (tally : Tally)
  | invoicePaid (businessId : Uuid)
  | paymentFailed (businessId : Uuid)
  | subscriptionUpdated (businessId : Uuid)
  | subscriptionDeleted (businessId : Uuid)
  | suspendPastDueBusinesses (businessIds : List Uuid)
  | rollback
  | ingestWebhook (order : Option DeliveryKey)
  | enqueueJob (job : QueuedJob)
  | enqueueAcceptedOrder (deliveryOrderId : Uuid) (forced : Bool) (job : QueuedJob)
  | finishJob (jobId : Uuid)
  | processDeliveryOrder (deliveryOrderId : Uuid) (forced : Bool) (status : DeliveryOrderStatus)
      (orderId : Option Uuid)
  | processDeliveryCancellation (deliveryOrderId : Uuid)
  | acceptDeliveryOrder (deliveryOrderId : Uuid) (forced : Bool)
  | denyDeliveryOrder (deliveryOrderId : Uuid)
  | deliveryAcceptDeadlineWatchdog (deliveryOrderIds : List Uuid)
deriving DecidableEq, Repr

abbrev Handler := Txn Database RowKey CommitSite Failure

def raise {α : Type} (error : AppError) : Handler α :=
  .fail (.app error)

def ensure (p : Prop) [Decidable p] (error : AppError) : Handler Unit :=
  .require p (.app error)

def liftExcept {α : Type} : Except Failure α → Handler α
  | .ok a => .done a
  | .error e => .fail e

def found {α : Type} (error : AppError) (row : Option α) : Handler α :=
  .orFail (.app error) row

structure Session where
  touched : List RowKey := []
  pending : Pending := id

def Session.stage (session : Session) (touched : List RowKey) (f : Pending) : Session where
  touched := session.touched ++ touched
  pending := f ∘ session.pending

def Session.stageWhen (session : Session) (p : Prop) [Decidable p]
    (action : Session → Handler Session) : Handler Session :=
  if p then action session else pure session

def commit (site : CommitSite) (session : Session) : Handler Unit :=
  .save site session.touched (Database.write session.pending)

-- The transaction ends without a write, and its locks are given back.
def rollback : Handler Unit :=
  .commit .rollback [] (fun _ => .error .unhandled) fun _ => .done ()

def flush (session : Session) : Handler Unit :=
  .select fun db =>
    match Database.write session.pending db with
    | .ok _ => .done ()
    | .error e => .fail e

def readNow : Handler Instant :=
  .read Database.now

def scalarOneOrNone {α : Type} : List α → Except Failure (Option α)
  | [] => .ok none
  | [a] => .ok (some a)
  | _ => .error .multipleResultsFound

def scalar {α : Type} (rows : Database → List α) : Handler (Option α) :=
  .select fun db =>
    match scalarOneOrNone (rows db) with
    | .ok row => .done row
    | .error e => .fail e

def setOrder (orderId : Uuid) (set : Order → Order) : Pending := fun t =>
  { t with orders := t.orders.modify orderId set }

def setBusiness (businessId : Uuid) (set : Business → Business) : Pending := fun t =>
  { t with businesses := t.businesses.modify businessId set }

def setConversation (businessId customerId : Uuid)
    (set : ConversationSession → ConversationSession) : Pending := fun t =>
  { t with conversationSessions := t.conversationSessions.modify (businessId, customerId) set }

def loadOrderForUpdate (businessId orderId : Uuid) : Handler Order := do
  let row ← .lock (.order orderId) fun db =>
    (db.orders.lookup orderId).filter fun o => o.businessId = businessId
  found (notFoundError "Order" (some orderId)) row

def refreshOrder (orderId : Uuid) : Handler Order := do
  let row ← .read fun db => db.orders.lookup orderId
  found (notFoundError "Order" (some orderId)) row

def loadBusiness (businessId : Uuid) : Handler Business := do
  let row ← .read fun db => db.businesses.lookup businessId
  found (notFoundError "Business" none) row

def Writes {α : Type} (sites : CommitSite → Prop) (N : Pending → Prop) (x : Handler α) : Prop :=
  x.Conforms (fun site _ write => sites site ∧ ∃ f, N f ∧ write = Database.write f) fun _ => True

def Commits {α : Type} (S : CommitSite → Pending → Prop) (x : Handler α) : Prop :=
  x.Conforms (fun site _ write => ∃ f, S site f ∧ write = Database.write f) fun _ => True

structure Neutral (N : Pending → Prop) : Prop where
  id : N id
  comp : ∀ f g, N f → N g → N (g ∘ f)

def Session.Extends (N : Pending → Prop) (session session' : Session) : Prop :=
  ∃ f, N f ∧ session'.pending = f ∘ session.pending

section Frames

open Txn

variable {α β : Type} {sites : CommitSite → Prop} {N : Pending → Prop} {session session' : Session}

theorem writes_bind {x : Handler β} {f : β → Handler α} (hx : Writes sites N x)
    (hf : ∀ b, Writes sites N (f b)) : Writes sites N (x.bind f) :=
  conforms_bind hx fun b _ => hf b

theorem writes_seq {x : Handler β} {f : β → Handler α} (hx : x.ReadOnly fun _ => True)
    (hf : ∀ b, Writes sites N (f b)) : Writes sites N (x.bind f) :=
  conforms_bind hx.conforms fun b _ => hf b

theorem writes_staged {x : Handler β} {f : β → Handler α} {R : β → Prop} (hx : x.ReadOnly R)
    (hf : ∀ b, R b → Writes sites N (f b)) : Writes sites N (x.bind f) :=
  conforms_bind hx.conforms hf

theorem writes_done (a : α) : Writes sites N (.done a) := trivial

theorem writes_fail (e : Failure) : Writes sites N (.fail e : Handler α) := trivial

theorem writes_readOnly {x : Handler α} (hx : x.ReadOnly fun _ => True) : Writes sites N x :=
  hx.conforms

theorem Session.Extends.pending (h : Session.Extends N {} session) : N session.pending := by
  obtain ⟨f, hf, hpending⟩ := h
  exact hpending ▸ hf

theorem writes_commit {site : CommitSite} (hsite : sites site)
    (h : Session.Extends N {} session) : Writes sites N (commit site session) :=
  conforms_save ⟨hsite, _, h.pending, rfl⟩ trivial

theorem writes_tryCommit {site : CommitSite} {keys : List RowKey} {f : Pending}
    (hsite : sites site) (h : N f) : Writes sites N (.tryCommit site keys (Database.write f)) :=
  conforms_tryCommit ⟨hsite, _, h, rfl⟩ fun _ => trivial

theorem writes_attempt {x : Handler α} (hx : Writes sites N x) : Writes sites N x.attempt :=
  conforms_attempt hx (fun _ _ => trivial) fun _ => trivial

theorem writes_run {x : Handler α} {T : Tables → Tables → Prop} (hrefl : ∀ t, T t t)
    (htrans : ∀ t t' t'', T t t' → T t' t'' → T t t'')
    (h : Writes sites (fun f => ∀ t, T t (f t)) x) (db : Database) :
    T db.toTables (x.run db).2.toTables := by
  refine Conforms.run_induction (R := fun _ => True)
    (fun db db' : Database => T db.toTables db'.toTables) (fun db => hrefl _)
    (fun _ _ _ => htrans _ _ _) (Conforms.mono h ?_ fun _ h => h) db
  rintro site keys write ⟨-, f, hf, rfl⟩ db db' hw
  rw [(Database.write_ok hw).1]
  exact hf _

def Preserves (I : Tables → Prop) (f : Pending) : Prop :=
  ∀ t, I t → I (f t)

theorem preserves_neutral {I : Tables → Prop} : Neutral (Preserves I) where
  id _ h := h
  comp f _ hf hg t h := hg (f t) (hf t h)

theorem Neutral.and {N' : Pending → Prop} (hN : Neutral N) (hN' : Neutral N') :
    Neutral fun f => N f ∧ N' f where
  id := ⟨hN.id, hN'.id⟩
  comp f g hf hg := ⟨hN.comp f g hf.1 hg.1, hN'.comp f g hf.2 hg.2⟩

theorem Session.Extends.left {N' : Pending → Prop}
    (h : session.Extends (fun f => N f ∧ N' f) session') : session.Extends N session' := by
  obtain ⟨f, hf, hpending⟩ := h
  exact ⟨f, hf.1, hpending⟩

theorem preserves_run {x : Handler α} {I : Tables → Prop} {db : Database}
    (h : Writes sites (Preserves I) x) (hI : I db.toTables) : I (x.run db).2.toTables :=
  writes_run (T := fun t t' => I t → I t') (fun _ h => h)
    (fun _ _ _ hab hbc h => hbc (hab h)) h db hI

theorem commits_of_writes {S : CommitSite → Pending → Prop} {x : Handler α} (h : Writes sites N x)
    (hS : ∀ site f, sites site → N f → S site f) : Commits S x := by
  apply Conforms.mono h _ fun _ h => h
  rintro site keys write ⟨hsite, f, hf, hwrite⟩
  exact ⟨f, hS site f hsite hf, hwrite⟩

theorem commits_bind {S : CommitSite → Pending → Prop} {x : Handler β} {f : β → Handler α}
    (hx : Commits S x) (hf : ∀ b, Commits S (f b)) : Commits S (x.bind f) :=
  conforms_bind hx fun b _ => hf b

theorem commits_seq {S : CommitSite → Pending → Prop} {R : β → Prop} {x : Handler β}
    {f : β → Handler α} (hx : x.ReadOnly R) (hf : ∀ b, R b → Commits S (f b)) :
    Commits S (x.bind f) :=
  conforms_bind hx.conforms hf

theorem commits_done {S : CommitSite → Pending → Prop} (a : α) :
    Commits S (.done a : Handler α) := trivial

theorem commits_readOnly {S : CommitSite → Pending → Prop} {x : Handler α}
    (hx : x.ReadOnly fun _ => True) : Commits S x :=
  hx.conforms

theorem commits_commit {S : CommitSite → Pending → Prop} {site : CommitSite}
    (h : S site session.pending) : Commits S (commit site session) :=
  conforms_save ⟨_, h, rfl⟩ trivial

theorem commits_attempt {S : CommitSite → Pending → Prop} {x : Handler α} (hx : Commits S x) :
    Commits S x.attempt :=
  conforms_attempt hx (fun _ _ => trivial) fun _ => trivial

theorem readOnly_seq {R : α → Prop} {x : Handler β} {f : β → Handler α}
    (hx : x.ReadOnly fun _ => True) (hf : ∀ b, (f b).ReadOnly R) : (x.bind f).ReadOnly R :=
  conforms_bind hx fun b _ => hf b

@[simp]
theorem readOnly_read {q : Database → α} : ReadOnly (fun _ => True) (.read q : Handler α) :=
  fun _ => trivial

@[simp]
theorem readOnly_lock {key : RowKey} {q : Database → α} :
    ReadOnly (fun _ => True) (.lock key q : Handler α) :=
  fun _ => trivial

theorem ensure_ok {p : Prop} [Decidable p] {error : AppError} :
    (ensure p error).ReadOnly fun _ => p :=
  conforms_require id

@[simp]
theorem readOnly_ensure {p : Prop} [Decidable p] {error : AppError} :
    (ensure p error).ReadOnly fun _ => True :=
  conforms_require fun _ => trivial

theorem liftExcept_ok (value : Except Failure α) :
    (liftExcept value).ReadOnly fun a => value = .ok a := by
  unfold liftExcept
  split
  · rfl
  · trivial

@[simp]
theorem readOnly_liftExcept {value : Except Failure α} :
    (liftExcept value).ReadOnly fun _ => True :=
  Conforms.mono (liftExcept_ok value) (fun _ _ _ => id) fun _ _ => trivial

@[simp]
theorem readOnly_found {error : AppError} {row : Option α} :
    (found error row).ReadOnly fun _ => True :=
  conforms_orFail fun _ _ => trivial

@[simp]
theorem readOnly_readNow : readNow.ReadOnly fun _ => True :=
  fun _ => trivial

@[simp]
theorem readOnly_scalar {rows : Database → List α} : (scalar rows).ReadOnly fun _ => True := by
  intro db
  dsimp only
  split <;> trivial

theorem scalar_rows {rows : Database → List α} {db : Database} :
    (scalar rows).Yields db fun row => rows db = row.toList := by
  simp only [scalar, Yields, ensures_select]
  cases hrows : rows db with
  | nil => exact yields_done rfl
  | cons r rest =>
      cases rest with
      | nil => exact yields_done rfl
      | cons _ _ => exact yields_fail

@[simp]
theorem readOnly_loadOrderForUpdate {businessId orderId : Uuid} :
    (loadOrderForUpdate businessId orderId).ReadOnly fun _ => True :=
  readOnly_seq readOnly_lock fun _ => readOnly_found

theorem loadOrderForUpdate_owned {businessId orderId : Uuid} :
    (loadOrderForUpdate businessId orderId).ReadOnly fun o =>
      orderId = o.id ∧ o.businessId = businessId := by
  refine fun db => conforms_orFail fun o ho => ?_
  obtain ⟨hlookup, hbusiness⟩ := Option.filter_eq_some_iff.mp ho
  exact ⟨(Table.lookup_key hlookup).symm, of_decide_eq_true hbusiness⟩

@[simp]
theorem readOnly_refreshOrder {orderId : Uuid} : (refreshOrder orderId).ReadOnly fun _ => True :=
  readOnly_seq readOnly_read fun _ => readOnly_found

@[simp]
theorem readOnly_loadBusiness {businessId : Uuid} :
    (loadBusiness businessId).ReadOnly fun _ => True :=
  readOnly_seq readOnly_read fun _ => readOnly_found

theorem Neutral.refl (hN : Neutral N) : session.Extends N session :=
  ⟨_, hN.id, rfl⟩

theorem Neutral.trans (hN : Neutral N) {session'' : Session} (h : session.Extends N session')
    (h' : session'.Extends N session'') : session.Extends N session'' := by
  obtain ⟨f, hf, hpending⟩ := h
  obtain ⟨g, hg, hpending'⟩ := h'
  refine ⟨g ∘ f, hN.comp f g hf hg, ?_⟩
  rw [hpending', hpending]
  rfl

theorem Session.extends_stage {touched : List RowKey} {f : Pending} (hf : N f) :
    session.Extends N (session.stage touched f) :=
  ⟨f, hf, rfl⟩

theorem readOnly_stageWhen {p : Prop} [Decidable p] {action : Session → Handler Session}
    (hN : Neutral N) (h : (action session).ReadOnly (session.Extends N)) :
    (session.stageWhen p action).ReadOnly (session.Extends N) := by
  unfold Session.stageWhen
  split
  · exact h
  · exact hN.refl

theorem writes_extend {start : Session} {x : Handler Session} {f : Session → Handler α}
    (hN : Neutral N) (hs : start.Extends N session) (hx : x.ReadOnly (session.Extends N))
    (hf : ∀ s, start.Extends N s → Writes sites N (f s)) : Writes sites N (x.bind f) :=
  conforms_bind hx.conforms fun s h => hf s (hN.trans hs h)

theorem commit_ensures {db : Database} {site : CommitSite} {Q : Except Failure Unit → Database → Prop}
    (hok : ∀ db', db'.toTables = session.pending db.toTables → db'.now = db.now → Q (.ok ()) db')
    (herr : ∀ e, Q (.error e) db) : (commit site session).Ensures db Q := by
  refine ensures_save.mpr ⟨fun db' hw => ?_, fun e _ => herr e⟩
  obtain ⟨htables, hnow⟩ := Database.write_ok hw
  exact hok db' htables hnow

theorem commit_valid {db : Database} {site : CommitSite}
    {Q : Except Failure Unit → Database → Prop}
    (hvalid : ∀ c : Constraint, c.Holds (session.pending db.toTables))
    (hok : ∀ db', db'.toTables = session.pending db.toTables → Q (.ok ()) db') :
    (commit site session).Ensures db Q := by
  refine ensures_save.mpr ⟨fun db' hw => hok db' (Database.write_ok hw).1, fun e hw => ?_⟩
  cases (Database.write_of_valid hvalid).symm.trans hw

end Frames

section Runs

open Interleaving

variable {ι α : Type} [DecidableEq ι] {S : ι → CommitSite → Pending → Prop}
  {p : ι → CommitSite → Database → Prop} {env : Database → Database → Prop}
  {admits : Config ι Database RowKey CommitSite Failure α → ι → Prop}
  {c c' : Config ι Database RowKey CommitSite Failure α}

theorem commits_thread {i : ι} (h : ∀ i, Commits (S i) (c.prog i)) (hstep : c.step? i = some c') :
    (c'.db = c.db ∧ c'.log = c.log) ∨ ∃ site f, S i site f ∧
      (∀ p : CommitSite → Database → Prop, c.Meets p i → p site c.db) ∧
        c'.db.toTables = f c.db.toTables ∧ c'.log = c.log ++ [(i, site)] := by
  obtain ⟨-, hsame | ⟨site, keys, write, ⟨f, hS, rfl⟩, hmeets, hwrite, hlog⟩⟩ := thread_commits h hstep
  · exact .inl hsame
  · exact .inr ⟨site, f, hS, hmeets, (Database.write_ok hwrite).1, hlog⟩

theorem commits_invariant {I : Database → List (ι × CommitSite) → Prop}
    (hcommit : ∀ i site f db db' log, S i site f → p i site db → I db log →
      db'.toTables = f db.toTables → I db' (log ++ [(i, site)]))
    (henv : ∀ db db' log, env db db' → I db log → I db' log)
    (hadmits : ∀ c i, admits c i → c.Meets (p i) i) (h : ∀ i, Commits (S i) (c.prog i))
    (hI : I c.db c.log) (hreach : Reachable env admits c c') :
    (∀ i, Commits (S i) (c'.prog i)) ∧ I c'.db c'.log := by
  apply invariant_reachable _ henv hadmits h hI hreach
  rintro i site keys _ db db' log ⟨f, hS, rfl⟩ hp hI hwrite
  exact hcommit i site f db db' log hS hp hI (Database.write_ok hwrite).1

theorem commits_reachable (h : ∀ i, Commits (S i) (c.prog i)) (hreach : Reachable env admits c c') :
    ∀ i, Commits (S i) (c'.prog i) :=
  (commits_invariant (p := fun _ _ _ => True) (I := fun _ _ => True)
    (fun _ _ _ _ _ _ _ _ _ _ => trivial) (fun _ _ _ _ _ => trivial)
    (fun c i _ => meets_of_forall (fun _ _ => trivial) c i) h trivial hreach).1

end Runs

end NextgenBackend
