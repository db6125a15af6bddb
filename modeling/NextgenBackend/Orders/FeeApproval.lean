import NextgenBackend.Orders.StatusLaw

namespace NextgenBackend.FeeApproval

open Txn Interleaving Inventory Orders StatusLaw

open RoutesOrders (assign)

inductive Serves : OrderRequest → Prop
  | cancelOrder {user orderId body link} : body.status = "CANCELLED" →
      Serves (.updateOrderStatus user orderId body link)
  | setDeliveryFee {user orderId body} : Serves (.setDeliveryFee user orderId body)
  | cancelStaleDeliveryFeeOrders : Serves .cancelStaleDeliveryFeeOrders
  | inboundMessage {message} : Serves (.inboundMessage message)

-- Elsewhere no delivery fee is sent to a customer, nor one that was sent changed.
def FeesKept (db db' : Database) : Prop :=
  ∀ orderId o', db'.orders.lookup orderId = some o' → o'.status = .feeSent →
    ∃ o, db.orders.lookup orderId = some o ∧ o.status = .feeSent ∧ o.amounts = o'.amounts

-- Staff set the order's fee, or the order was cancelled.
def settles (orderId : Uuid) : CommitSite → Bool
  | .setDeliveryFee id _ _ _ => id = orderId
  | site => (movesOf site).any fun move =>
      move.applied && move.orderId = orderId && move.after = .cancelled

def LastSet {ι : Type} (orderId : Uuid) (amounts : Amounts) (log : List (ι × CommitSite)) : Prop :=
  ∃ earlier i before offer later,
    log = earlier ++ (i, .setDeliveryFee orderId before amounts offer) :: later ∧
      ∀ entry ∈ later, settles orderId entry.2 = false

def overwrites (before after : Amounts) (o : Order) : Bool :=
  assign before.deliveryFeeCents after.deliveryFeeCents o.deliveryFeeCents =
      after.deliveryFeeCents &&
    assign before.totalCents after.totalCents o.totalCents = after.totalCents &&
      assign before.taxCents after.taxCents o.taxCents = after.taxCents

-- The reply approves what staff last wrote: the order has its fee sent, and the session has the fee.
def isApproved (fee : Cents) (o : Order) : Bool :=
  o.status = .feeSent && o.deliveryFeeCents = fee && o.totalCents = o.subtotalCents + fee

def Meets (site : CommitSite) (db : Database) : Prop :=
  match site with
  | .setDeliveryFee orderId before after _ =>
      ∀ o ∈ db.orders.lookup orderId, overwrites before after o = true
  | .processMessage _ (some turn) => ∀ approved ∈ turn.finalized,
      (turn.moves.any (·.applied)) = true →
        ∀ o ∈ db.orders.lookup approved.1, o.status ≠ .new → isApproved approved.2 o = true
  | _ => True

structure Handles (site : CommitSite) (t t' : Tables) : Prop where
  sent : ∀ orderId o', t'.orders.lookup orderId = some o' → o'.status = .feeSent →
    (∃ before offer, site = .setDeliveryFee orderId before o'.amounts offer) ∨
      (settles orderId site = false ∧ ∃ o, t.orders.lookup orderId = some o ∧
        o.status = .feeSent ∧ o.amounts = o'.amounts)
  placed : ∀ orderId o o', t.orders.lookup orderId = some o → t'.orders.lookup orderId = some o' →
    o.status ≠ .new → o'.status = .new → o.status = .feeSent ∧ o.amounts = o'.amounts

def Sound (site : CommitSite) (f : Pending) : Prop :=
  ∀ db : Database, Meets site db → Handles site db.toTables (f db.toTables)

section Steps

variable {t t' t'' : Tables} {site : CommitSite} {f : Pending} {orderId : Uuid}
  {moves moves' : List StatusMove}

-- Orders are cancelled or placed, but none has its fee sent or approved.
structure Leaves (moves : List StatusMove) (t t' : Tables) : Prop where
  sent : ∀ orderId o', t'.orders.lookup orderId = some o' → o'.status = .feeSent →
    isMoved moves orderId = false ∧ ∃ o, t.orders.lookup orderId = some o ∧
      o.status = .feeSent ∧ o.amounts = o'.amounts
  placed : ∀ orderId o, t.orders.lookup orderId = some o → o.status ≠ .new →
    ∃ o', t'.orders.lookup orderId = some o' ∧ o'.status ≠ .new

theorem Leaves.trans (h : Leaves moves t t') (h' : Leaves moves' t' t'') :
    Leaves (moves ++ moves') t t'' := by
  constructor
  · intro orderId o'' ho'' hsent
    obtain ⟨hunmoved', o', ho', hsent', hamounts'⟩ := h'.sent orderId o'' ho'' hsent
    obtain ⟨hunmoved, o, ho, hsent, hamounts⟩ := h.sent orderId o' ho' hsent'
    refine ⟨?_, o, ho, hsent, hamounts.trans hamounts'⟩
    rw [isMoved_append, hunmoved, hunmoved']
    rfl
  · intro orderId o ho hstatus
    obtain ⟨o', ho', hstatus'⟩ := h.placed orderId o ho hstatus
    exact h'.placed orderId o' ho' hstatus'

theorem leaves_of_same (h : t'.orders = t.orders) : Leaves [] t t' := by
  constructor
  · intro orderId o' ho' hsent
    rw [h] at ho'
    exact ⟨rfl, o', ho', hsent, rfl⟩
  · intro orderId o ho hstatus
    rw [h]
    exact ⟨o, ho, hstatus⟩

theorem Leaves.weaken (h : Leaves moves t t')
    (hunmoved : ∀ orderId, isMoved moves orderId = false → isMoved moves' orderId = false) :
    Leaves moves' t t' := by
  constructor
  · intro orderId o' ho' hsent
    obtain ⟨hfree, hkept⟩ := h.sent orderId o' ho' hsent
    exact ⟨hunmoved orderId hfree, hkept⟩
  · exact h.placed

theorem leaves_of_moves (h : Moves moves f) (hall : ∀ move ∈ moves, move.after = .cancelled) :
    Leaves moves t (f t) := by
  constructor
  · intro orderId o' ho' hsent
    cases hmoved : isMoved moves orderId with
    | false =>
        rw [moves_spare h hmoved] at ho'
        exact ⟨rfl, o', ho', hsent, rfl⟩
    | true =>
        have hmem : orderId ∈ t.orders.map key := by
          rw [← moves_keys h, ← Table.lookup_key ho']
          exact List.mem_map_of_mem (Table.lookup_mem ho')
        obtain ⟨o, ho, hkey⟩ := List.mem_map.mp hmem
        cases hlookup : t.orders.lookup orderId with
        | none => exact absurd hkey (Table.lookup_eq_none.mp hlookup o ho)
        | some o =>
            obtain ⟨o₁, ho₁, hstatus⟩ := moves_status h hall hlookup
            obtain rfl := Option.some.inj (ho'.symm.trans ho₁)
            rw [hmoved, hsent] at hstatus
            cases hstatus
  · intro orderId o ho hstatus
    obtain ⟨o', ho', hstatus'⟩ := moves_status h hall ho
    refine ⟨o', ho', ?_⟩
    rw [hstatus']
    split
    · simp
    · exact hstatus

theorem leaves_placing {order : Order} {items : List OrderItem} {movements : List StockMovement}
    (h : order.status ≠ .feeSent) : Leaves [] t (placing order items movements t) := by
  have horders : (placing order items movements t).orders = t.orders.insert order := rfl
  constructor
  · intro orderId o' ho' hsent
    rw [horders, Table.lookup_insert] at ho'
    rcases Option.or_eq_some_iff.mp ho' with ho | ⟨-, hnew⟩
    · exact ⟨rfl, o', ho, hsent, rfl⟩
    · simp only [Option.ite_none_right_eq_some, Option.some.injEq] at hnew
      rw [hnew.2] at h
      exact absurd hsent h
  · intro orderId o ho hstatus
    rw [horders]
    exact ⟨o, Table.lookup_insert_of_some ho, hstatus⟩

theorem Leaves.handles (h : Leaves moves t t')
    (hsettles : ∀ orderId, isMoved moves orderId = false → settles orderId site = false) :
    Handles site t t' := by
  constructor
  · intro orderId o' ho' hsent
    obtain ⟨hunmoved, hkept⟩ := h.sent orderId o' ho' hsent
    exact .inr ⟨hsettles orderId hunmoved, hkept⟩
  · intro orderId o o' ho ho' hstatus hnew
    obtain ⟨o₁, ho₁, hstatus₁⟩ := h.placed orderId o ho hstatus
    obtain rfl := Option.some.inj (ho'.symm.trans ho₁)
    exact absurd hnew hstatus₁

theorem settles_of_moves (hmoves : movesOf site = moves)
    (hsite : ∀ id before after offer, site ≠ .setDeliveryFee id before after offer)
    (hunmoved : isMoved moves orderId = false) : settles orderId site = false := by
  have hsettles : settles orderId site = (movesOf site).any fun move =>
      move.applied && move.orderId = orderId && move.after = .cancelled := by
    cases site with
    | setDeliveryFee id before after => exact absurd rfl (hsite id before after _)
    | _ => rfl
  rw [hsettles, hmoves]
  simp only [isMoved, List.any_eq_false, Bool.and_eq_true, not_and] at hunmoved ⊢
  intro move hmove hmatch
  exact absurd hmatch.2 (hunmoved move hmove hmatch.1)

theorem Handles.congr {s s' : Tables} (h : Handles site t t') (hbefore : t.orders = s.orders)
    (hafter : s'.orders = t'.orders) : Handles site s s' := by
  constructor
  · rw [hafter, ← hbefore]
    exact h.sent
  · rw [hafter, ← hbefore]
    exact h.placed

theorem finalized_sound {business : Business} {fee : Cents} {payment : Option ChosenPayment}
    {waMessageId : String} {turn : MessageTurn} {db : Database} {g : Pending}
    (hmoves : turn.moves = [moveOf (approvalEvent orderId business.id) true])
    (hfinalized : turn.finalized = some (orderId, fee)) (hg : Quiet g)
    (hmeets : Meets (.processMessage waMessageId (some turn)) db) :
    Handles (.processMessage waMessageId (some turn)) db.toTables
      ((noted (approvalEvent orderId business.id) [] ∘
        setOrder orderId (Bot.finalizeWith business fee payment)) (g db.toTables)) := by
  have hlookup (id : Uuid) : ((noted (approvalEvent orderId business.id) [] ∘
      setOrder orderId (Bot.finalizeWith business fee payment)) (g db.toTables)).orders.lookup id =
        if id = orderId then (db.orders.lookup orderId).map (Bot.finalizeWith business fee payment)
        else db.orders.lookup id := by
    rw [← (hg db.toTables).1]
    exact Table.lookup_modify fun _ => rfl
  have hsettles (id : Uuid) : settles id (.processMessage waMessageId (some turn)) = false := by
    simp [settles, movesOf, hmoves, moveOf, approvalEvent, Bot.statusEvent]
  constructor
  · intro id o' ho' hsent
    rw [hlookup] at ho'
    split at ho'
    next =>
      obtain ⟨o, -, rfl⟩ := Option.map_eq_some_iff.mp ho'
      cases hsent
    next => exact .inr ⟨hsettles id, o', ho', hsent, rfl⟩
  · intro id o o' ho ho' hstatus hnew
    rw [hlookup] at ho'
    split at ho'
    next hid =>
      subst hid
      rw [ho] at ho'
      obtain rfl := Option.some.inj ho'
      have happroved := hmeets (id, fee) (by rw [hfinalized]; rfl) (by simp [hmoves, moveOf]) o ho
        hstatus
      simp only [isApproved, Bool.and_eq_true, decide_eq_true_eq] at happroved
      obtain ⟨⟨hsent, hfee⟩, htotal⟩ := happroved
      exact ⟨hsent, by simp [Order.amounts, Bot.finalizeWith, hfee, htotal]⟩
    next =>
      obtain rfl := Option.some.inj (ho.symm.trans ho')
      exact absurd hnew hstatus

theorem served_sound {message : Bot.InboundMessage} {turn : Option MessageTurn}
    (h : Served message turn f) : Sound (.processMessage message.waMessageId turn) f := by
  intro db hmeets
  cases turn with
  | none => exact (leaves_of_same (h db.toTables).1).handles fun _ _ => rfl
  | some turn =>
      obtain ⟨business, effect, context, g, k, g', hturned, hfits, hfinalized, hg, hg', rfl⟩ := h
      have hleft (h : Leaves turn.moves (g db.toTables) (k (g db.toTables))) :
          Handles (.processMessage message.waMessageId (some turn)) db.toTables
            (g' (k (g db.toTables))) := by
        have hhandles : Handles (.processMessage message.waMessageId (some turn)) (g db.toTables)
            (k (g db.toTables)) := h.handles fun _ => settles_of_moves rfl (by simp)
        exact hhandles.congr (hg _).1 (hg' _).1
      generalize hmoves : turn.moves = moves at hturned
      cases hturned with
      | silent =>
          apply hleft
          rw [hmoves]
          exact leaves_of_same rfl
      | @placed superseded status _ moves moves' f₁ f₂ order items movements quiet hf hf' hall _ _
          hstatus _ hquiet =>
          apply hleft
          rw [hmoves]
          have hplaced : order.status ≠ .feeSent := by
            rw [hstatus]
            rcases (hfits _ rfl).2 with h | h
            · simp [h]
            · simp [h]
          have hbefore := leaves_of_moves (t := g db.toTables) hf
            fun move hmove => hall move (List.mem_append_left _ hmove)
          have hkept : Leaves [] _ (quiet (f₁ (g db.toTables))) := leaves_of_same (hquiet _).1
          have hafter := leaves_of_moves
            (t := placing order items movements (quiet (f₁ (g db.toTables)))) hf'
            fun move hmove => hall move (List.mem_append_right _ hmove)
          have hrun := ((hbefore.trans hkept).trans (leaves_placing hplaced)).trans hafter
          simp only [List.append_nil] at hrun
          exact hrun
      | rejected hf hafter =>
          apply hleft
          rw [hmoves]
          exact leaves_of_moves hf (by simpa using hafter)
      | finalized => exact (finalized_sound hmoves hfinalized hg hmeets).congr rfl (hg' _).1
      | missed =>
          apply hleft
          rw [hmoves]
          exact (leaves_of_same noted_orders).weaken fun _ _ => rfl

theorem rows_sound {site : List StatusMove → CommitSite} (hsite : ∀ moves, movesOf (site moves) = moves)
    (hother : ∀ moves id before after offer, site moves ≠ .setDeliveryFee id before after offer)
    (hf : Moves moves f) (hall : ∀ move ∈ moves, move.after = .cancelled) :
    Sound (site moves) f :=
  fun _ _ => (leaves_of_moves hf hall).handles fun _ => settles_of_moves (hsite moves) (hother moves)

theorem cancelOrder_sound {user : AuthUser} {body : RoutesOrders.StatusUpdateRequest}
    {link : Option String} (hbody : body.status = "CANCELLED") :
    Commits Sound (RoutesOrders.updateOrderStatus user orderId body link) := by
  apply updateOrderStatus_commits
  · intro loaded requested now movements hrequested _ hreturns db _
    have hcancelled : requested = .cancelled := by
      rw [hbody] at hrequested
      exact (Option.some.inj hrequested).symm
    subst hcancelled
    have hmoves : Moves [moveOf (staffEvent user orderId body.reason loaded.status .cancelled) true]
        (noted (staffEvent user orderId body.reason loaded.status .cancelled) movements ∘
          setOrder orderId (RoutesOrders.recordStatus user.userId body .cancelled loaded now)) :=
      .applied ⟨fun _ => rfl, fun _ => rfl⟩ hreturns
    have hleaves := leaves_of_moves (t := db.toTables) hmoves (by simp [moveOf, staffEvent])
    exact hleaves.handles fun _ => settles_of_moves rfl (by simp)
  · intro order url db _
    have hlookup (id : Uuid) : (setOrder order.id (recordLink order url) db.toTables).orders.lookup
        id = if id = order.id then (db.orders.lookup order.id).map (recordLink order url)
          else db.orders.lookup id := Table.lookup_modify fun _ => rfl
    have hleaves : Leaves [] db.toTables (setOrder order.id (recordLink order url) db.toTables) := by
      constructor
      · intro id o' ho' hsent
        rw [hlookup] at ho'
        split at ho'
        next hid =>
          obtain ⟨o, ho, rfl⟩ := Option.map_eq_some_iff.mp ho'
          exact ⟨rfl, o, hid ▸ ho, hsent, rfl⟩
        next => exact ⟨rfl, o', ho', hsent, rfl⟩
      · intro id o ho hstatus
        rw [hlookup]
        split
        next hid =>
          subst hid
          exact ⟨recordLink order url o, by rw [ho]; rfl, hstatus⟩
        next => exact ⟨o, ho, hstatus⟩
    exact hleaves.handles fun _ _ => rfl

theorem setDeliveryFee_sound {user : AuthUser} {body : RoutesOrders.DeliveryFeeRequest} :
    Commits Sound (RoutesOrders.setDeliveryFee user orderId body) := by
  apply setDeliveryFee_commits
  intro loaded business offer g hg db hmeets
  generalize htotals : RoutesOrders.deliveryTotals business loaded body.deliveryFeeCents = totals
    at hmeets ⊢
  have hlookup (id : Uuid) : ((g ∘ noted (feeEvent user orderId body.deliveryFeeCents) [] ∘
      setOrder orderId (RoutesOrders.recordDeliveryFee loaded body.deliveryFeeCents totals))
        db.toTables).orders.lookup id =
      if id = orderId then (db.orders.lookup orderId).map
        (RoutesOrders.recordDeliveryFee loaded body.deliveryFeeCents totals)
      else db.orders.lookup id := by
    rw [Function.comp_apply, (hg _).1]
    exact Table.lookup_modify fun _ => rfl
  constructor
  · intro id o' ho' hsent
    rw [hlookup] at ho'
    split at ho'
    next hid =>
      subst hid
      obtain ⟨o, ho, rfl⟩ := Option.map_eq_some_iff.mp ho'
      have hwritten := hmeets o ho
      simp only [overwrites, Order.amounts, Bool.and_eq_true] at hwritten
      obtain ⟨⟨hfee, htotal⟩, htax⟩ := hwritten
      left
      refine ⟨loaded.amounts, offer, ?_⟩
      simp only [RoutesOrders.recordDeliveryFee, Order.amounts, of_decide_eq_true hfee,
        of_decide_eq_true htotal, of_decide_eq_true htax]
    next hid => exact .inr ⟨by simp [settles, Ne.symm hid], o', ho', hsent, rfl⟩
  · intro id o o' ho ho' hstatus hnew
    rw [hlookup] at ho'
    split at ho'
    next =>
      obtain ⟨o₁, -, rfl⟩ := Option.map_eq_some_iff.mp ho'
      cases hnew
    next =>
      obtain rfl := Option.some.inj (ho.symm.trans ho')
      exact absurd hnew hstatus

theorem serve_sound {request : OrderRequest} (h : Serves request) :
    Commits Sound (serve request) := by
  cases h with
  | cancelOrder hbody => exact commits_bind (cancelOrder_sound hbody) fun _ => commits_done _
  | setDeliveryFee => exact commits_bind setDeliveryFee_sound fun _ => commits_done _
  | cancelStaleDeliveryFeeOrders =>
      have hjob : Commits Sound Worker.cancelStaleDeliveryFeeOrders :=
        cancelStaleDeliveryFeeOrders_commits fun _ _ => rows_sound (fun _ => rfl) (by simp)
      exact commits_bind (runJob_commits hjob) fun _ => commits_done _
  | inboundMessage =>
      apply commits_bind
      · exact processInboundMessage_commits fun _ _ => served_sound
      · exact fun _ => commits_done _

end Steps

section Runs

variable {ι : Type} [DecidableEq ι] {requests : ι → OrderRequest} {db : Database} {c c' : Server ι}
  {orderId : Uuid}

abbrev ApprovalRun (c c' : Server ι) : Prop :=
  Reachable FeesKept (fun c i => c.Meets Meets i) c c'

def Settled (orderId : Uuid) (db : Database) (log : List (ι × CommitSite)) : Prop :=
  ∀ o, db.orders.lookup orderId = some o → o.status = .feeSent → LastSet orderId o.amounts log

omit [DecidableEq ι] in
theorem settled_commit {i : ι} {site : CommitSite} {f : Pending} {db db' : Database}
    {log : List (ι × CommitSite)} (hsound : Sound site f) (hmeets : Meets site db)
    (hsettled : Settled orderId db log) (htables : db'.toTables = f db.toTables) :
    Settled orderId db' (log ++ [(i, site)]) := by
  have hhandles := hsound db hmeets
  rw [← htables] at hhandles
  intro o' ho' hsent
  rcases hhandles.sent orderId o' ho' hsent with ⟨before, offer, rfl⟩ | ⟨hkept, o, ho, hstatus, hamounts⟩
  · exact ⟨log, i, before, offer, [], rfl, by simp⟩
  · obtain ⟨earlier, j, before, offer, later, hlog, hlater⟩ := hsettled o ho hstatus
    refine ⟨earlier, j, before, offer, later ++ [(i, site)], ?_, ?_⟩
    · rw [hlog, hamounts, List.append_assoc]
      rfl
    · intro entry hentry
      rcases List.mem_append.mp hentry with h | h
      · exact hlater entry h
      · obtain rfl := List.mem_singleton.mp h
        exact hkept

theorem settled_reachable (hserves : ∀ i, Serves (requests i))
    (hfresh : ∀ o ∈ db.orders.lookup orderId, o.status ≠ .feeSent)
    (hc : ApprovalRun (serving db requests) c) :
    (∀ i, Commits Sound (c.prog i)) ∧ Settled orderId c.db c.log := by
  have hstart : ∀ i, Commits Sound ((serving db requests).prog i) :=
    fun i => serve_sound (hserves i)
  have henv (db db' : Database) (log : List (ι × CommitSite)) (hkept : FeesKept db db')
      (hsettled : Settled orderId db log) : Settled orderId db' log := by
    intro o' ho' hsent
    obtain ⟨o, ho, hstatus, hamounts⟩ := hkept orderId o' ho' hsent
    rw [← hamounts]
    exact hsettled o ho hstatus
  exact commits_invariant (fun _ _ _ _ _ _ => settled_commit) henv (fun _ _ h => h) hstart
    (fun o ho hsent => absurd hsent (hfresh o ho)) hc

theorem approved_from_fee_sent (hserves : ∀ i, Serves (requests i))
    (hfresh : ∀ o ∈ db.orders.lookup orderId, o.status ≠ .feeSent)
    (hc : ApprovalRun (serving db requests) c) {i : ι} (hmeets : c.Meets Meets i)
    (hstep : c.step? i = some c') {o o' : Order} (ho : c.db.orders.lookup orderId = some o)
    (ho' : c'.db.orders.lookup orderId = some o') (hbefore : o.status ≠ .new)
    (hafter : o'.status = .new) :
    o.status = .feeSent ∧ LastSet orderId o'.amounts c.log := by
  obtain ⟨hsound, hsettled⟩ := settled_reachable hserves hfresh hc
  rcases commits_thread (S := fun _ => Sound) hsound hstep with
    ⟨hsame, -⟩ | ⟨site, f, hS, hsite, htables, -⟩
  · rw [hsame] at ho'
    obtain rfl := Option.some.inj (ho.symm.trans ho')
    exact absurd hafter hbefore
  · have hhandles := hS c.db (hsite Meets hmeets)
    rw [← htables] at hhandles
    obtain ⟨hsent, hamounts⟩ := hhandles.placed orderId o o' ho ho' hbefore hafter
    rw [← hamounts]
    exact ⟨hsent, hsettled o ho hsent⟩

end Runs

instance (site : CommitSite) (db : Database) : Decidable (Meets site db) := by
  apply CommitSite.casesOn (motive := fun site => Decidable (Meets site db)) site
  case processMessage =>
    intro message turn
    apply Option.casesOn (motive := fun turn => Decidable (Meets (.processMessage message turn) db))
      turn
    all_goals
      intros
      unfold Meets
      infer_instance
  all_goals
    intros
    unfold Meets
    infer_instance

theorem approved_order_carries_fee :
    ∃ c ∈ (serving parked feeThenApproval).schedule (fun c i => c.Meets Meets i)
        [false, false, false, false, false, true, true, true, true, true, true, true, true, true,
          true],
      ∃ c' ∈ c.step? true, ∃ o', c'.db.orders.lookup 5 = some o' ∧ o'.status = .new ∧
        o'.deliveryFeeCents = 2500 ∧ LastSet 5 o'.amounts c.log := by
  have hserves : ∀ i, Serves (feeThenApproval i) := by
    intro i
    cases i
    · exact .setDeliveryFee
    · exact .inboundMessage
  have hfresh : ∀ o ∈ parked.orders.lookup 5, o.status ≠ .feeSent := by decide +kernel
  have hrun : ∃ c ∈ (serving parked feeThenApproval).schedule (fun c i => c.Meets Meets i)
      [false, false, false, false, false, true, true, true, true, true, true, true, true, true,
        true], c.Meets Meets true ∧ statusOf c 5 = some .feeSent ∧ ∃ c' ∈ c.step? true,
          statusOf c' 5 = some .new ∧
            (c'.db.orders.lookup 5).map (·.deliveryFeeCents) = some 2500 := by
    decide +kernel
  obtain ⟨c, hc, hmeets, hsent, c', hc', hnew, hfee⟩ := hrun
  obtain ⟨o, ho, hstatus⟩ := Option.map_eq_some_iff.mp hsent
  obtain ⟨o', ho', hstatus'⟩ := Option.map_eq_some_iff.mp hnew
  have happroved := approved_from_fee_sent hserves hfresh (schedule_reachable hc) hmeets hc' ho ho'
    (by simp [hstatus]) hstatus'
  rw [ho'] at hfee
  exact ⟨c, hc, c', hc', o', ho', hstatus', Option.some.inj hfee, happroved.2⟩

theorem cancelled_order_approved :
    ¬ ∀ (db : Database) (requests : Bool → OrderRequest) (c c' : Server Bool) (i : Bool)
        (orderId : Uuid) (o o' : Order),
      (∀ i, Serves (requests i)) → (∀ o ∈ db.orders.lookup orderId, o.status ≠ .feeSent) →
      Reachable FeesKept (fun _ _ => True) (serving db requests) c → c.step? i = some c' →
      c.db.orders.lookup orderId = some o → c'.db.orders.lookup orderId = some o' →
      o.status ≠ .new → o'.status = .new →
      o.status = .feeSent ∧ LastSet orderId o'.amounts c.log := by
  intro h
  have hserves : ∀ i, Serves (cancelThenApproval i) := by
    intro i
    cases i
    · exact .cancelOrder rfl
    · exact .inboundMessage
  have hfresh : ∀ o ∈ parked.orders.lookup 5, o.status ≠ .feeSent := by decide +kernel
  have hrun : ∃ c ∈ (serving parked cancelThenApproval).schedule (fun _ _ => True)
      [false, false, false, false, true, true, true, true, true, true, true, true, true, true],
      statusOf c 5 = some .cancelled ∧ ∃ c' ∈ c.step? true, statusOf c' 5 = some .new := by
    decide +kernel
  obtain ⟨c, hc, hcancelled, c', hc', hnew⟩ := hrun
  obtain ⟨o, ho, hstatus⟩ := Option.map_eq_some_iff.mp hcancelled
  obtain ⟨o', ho', hstatus'⟩ := Option.map_eq_some_iff.mp hnew
  have hsent := (h _ _ c c' true 5 o o' hserves hfresh (schedule_reachable hc) hc' ho ho'
    (by simp [hstatus]) hstatus').1
  rw [hstatus] at hsent
  cases hsent

end NextgenBackend.FeeApproval
