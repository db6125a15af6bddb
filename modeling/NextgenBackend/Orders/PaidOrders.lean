import NextgenBackend.Orders.Commits
import NextgenBackend.Orders.PaymentGate

namespace NextgenBackend.PaidOrders

open Txn Interleaving Inventory Orders

def isPaid (orderId : Uuid) (t : Tables) : Bool :=
  (t.orders.lookup orderId).any (·.paymentStatus = .paid)

inductive Serves : OrderRequest → Prop
  | updateOrderStatus {user orderId body link} :
      Serves (.updateOrderStatus user orderId body link)
  | cancelUnpaidOrders : Serves .cancelUnpaidOrders
  | api {request} : Serves (.stock (.api request))

-- Elsewhere orders are placed and edited, and the payment of a paid one is left alone.
def PaymentsKept (db db' : Database) : Prop :=
  ∀ orderId, isPaid orderId db.toTables = true → isPaid orderId db'.toTables = true

def isManager (user : AuthUser) : Bool :=
  user.role = .owner || user.role = .manager

def recordsRefund (body : RoutesOrders.RefundRequest) (result : RoutesOrders.RefundResult) : Bool :=
  body.confirmManual || (result.success && result.status = .completed)

-- The accepted refunds, voids and edits by an owner or a manager.
def overrides (request : OrderRequest) (site : CommitSite) (orderId : Uuid) : Bool :=
  match request, site with
  | .stock (.api (.updatePaymentStatus user _ body)), .updatePaymentStatus id _ _ =>
      id = orderId && body.paymentStatus ≠ .paid && isManager user
  | .stock (.api (.refundOrderPayment _ _ body result)), .refundOrderPayment id =>
      id = orderId && recordsRefund body result
  | .stock (.api (.refundPosOrder ..)), .refundPosOrder id => id = orderId
  | .stock (.api (.voidPosOrder ..)), .voidPosOrder id => id = orderId
  | _, _ => false

-- No acceptance, timeout or edit by staff that acted on an unpaid order finds it paid by then.
def Meets (request : OrderRequest) (site : CommitSite) (t : Tables) : Prop :=
  match request, site with
  | _, .updateOrderStatus move true => isPaid move.orderId t = false
  | _, .cancelUnpaidOrders moves => ∀ move ∈ moves, isPaid move.orderId t = false
  | .stock (.api (.updatePaymentStatus user _ body)), .updatePaymentStatus id before _ =>
      isManager user = true ∨ body.paymentStatus = .paid ∨ before = body.paymentStatus ∨
        isPaid id t = false
  | _, _ => True

def Sound (request : OrderRequest) (site : CommitSite) (f : Pending) : Prop :=
  ∀ t orderId, isPaid orderId t = true → Meets request site t →
    overrides request site orderId = false → isPaid orderId (f t) = true

section Writers

variable {request : OrderRequest} {site : CommitSite} {orderId : Uuid} {t : Tables}

def KeepsPaid (f : Pending) : Prop :=
  ∀ t orderId, isPaid orderId t = true → isPaid orderId (f t) = true

def KeepsOthers (orderId : Uuid) (f : Pending) : Prop :=
  ∀ t id, id ≠ orderId → isPaid id t = true → isPaid id (f t) = true

theorem keepsPaid_neutral : Neutral KeepsPaid where
  id _ _ h := h
  comp f _ hf hg t id h := hg (f t) id (hf t id h)

theorem keepsOthers_neutral : Neutral (KeepsOthers orderId) where
  id _ _ _ h := h
  comp f _ hf hg t id hne h := hg (f t) id hne (hf t id hne h)

theorem isPaid_of_orders {t' : Tables} (horders : t'.orders = t.orders)
    (h : isPaid orderId t = true) : isPaid orderId t' = true := by
  unfold isPaid
  rw [horders]
  exact h

theorem keepsPaid_of_same {f : Pending} (h : ∀ t, (f t).orders = t.orders) : KeepsPaid f :=
  fun t _ hpaid => isPaid_of_orders (h t) hpaid

theorem keepsOthers_of_same {f : Pending} (h : ∀ t, (f t).orders = t.orders) :
    KeepsOthers orderId f :=
  fun t id _ => keepsPaid_of_same h t id

theorem isPaid_iff : isPaid orderId t = true ↔
    ∃ o, t.orders.lookup orderId = some o ∧ o.paymentStatus = .paid := by
  unfold isPaid
  cases t.orders.lookup orderId with
  | none => simp
  | some o => simp

theorem isPaid_setOrder {id : Uuid} {set : Order → Order} (hkey : ∀ o, key (set o) = key o)
    (hset : ∀ o, id = orderId → o.paymentStatus = .paid → (set o).paymentStatus = .paid)
    (h : isPaid id t = true) : isPaid id (setOrder orderId set t) = true := by
  obtain ⟨o, ho, hpaid⟩ := isPaid_iff.mp h
  apply isPaid_iff.mpr
  simp only [setOrder, Table.lookup_modify hkey]
  split
  next heq =>
    subst heq
    exact ⟨set o, by simp [ho], hset o rfl hpaid⟩
  next => exact ⟨o, ho, hpaid⟩

theorem keepsOthers_setOrder {set : Order → Order} (hkey : ∀ o, key (set o) = key o) :
    KeepsOthers orderId (setOrder orderId set) :=
  fun _ _ hne h => isPaid_setOrder hkey (fun _ heq => absurd heq hne) h

theorem keepsPaid_setOrder {set : Order → Order} (hkey : ∀ o, key (set o) = key o)
    (hset : ∀ o, o.paymentStatus = .paid → (set o).paymentStatus = .paid) :
    KeepsPaid (setOrder orderId set) :=
  fun _ _ h => isPaid_setOrder hkey (fun o _ => hset o) h

theorem recordStatus_paid {userId : Uuid} {body : RoutesOrders.StatusUpdateRequest}
    {requested : OrderStatus} {loaded o : Order} {now : Instant}
    (hpending : RoutesOrders.recordsPending requested loaded = false)
    (hpaid : o.paymentStatus = .paid) :
    (RoutesOrders.recordStatus userId body requested loaded now o).paymentStatus = .paid := by
  simp only [RoutesOrders.recordStatus]
  split
  next hdue =>
    have hloaded : loaded.paymentStatus = .pending := by
      simpa [RoutesOrders.recordsPending, hdue] using hpending
    simp [hloaded, RoutesOrders.assign, hpaid]
  next => exact hpaid

theorem updateOrderStatus_sound {user : AuthUser} {body : RoutesOrders.StatusUpdateRequest}
    {link : Option String} :
    Commits (Sound (.updateOrderStatus user orderId body link))
      (RoutesOrders.updateOrderStatus user orderId body link) := by
  apply updateOrderStatus_commits
  · intro loaded requested now movements _ _ _ t id hpaid hmeets _
    have hkey (o : Order) :
        key (RoutesOrders.recordStatus user.userId body requested loaded now o) = key o := rfl
    apply isPaid_of_orders noted_orders
    apply isPaid_setOrder hkey _ hpaid
    rintro o rfl ho
    apply recordStatus_paid _ ho
    cases hpending : RoutesOrders.recordsPending requested loaded with
    | false => rfl
    | true =>
        rw [hpending] at hmeets
        replace hmeets : isPaid _ t = false := hmeets
        rw [hmeets] at hpaid
        exact absurd hpaid (by simp)
  · intro order url t id hpaid _ _
    have hkey (o : Order) : key (recordLink order url o) = key o := rfl
    exact isPaid_setOrder hkey (fun _ _ h => h) hpaid

theorem cancelUnpaidOrders_sound :
    Commits (Sound .cancelUnpaidOrders) Worker.cancelUnpaidOrders := by
  apply cancelUnpaidOrders_commits
  intro moves f hmoves _ t id hpaid hmeets _
  have hunmoved : isMoved moves id = false := by
    simp only [isMoved, List.any_eq_false, Bool.and_eq_true, decide_eq_true_eq, not_and]
    rintro move hmove - rfl
    have hunpaid := hmeets move hmove
    rw [hpaid] at hunpaid
    cases hunpaid
  unfold isPaid
  rw [moves_spare hmoves hunmoved]
  exact hpaid

theorem recordPayment_paid {body : RoutesOrders.PaymentUpdateRequest} {loaded o : Order}
    {now : Instant} (hbody : body.paymentStatus = .paid ∨ loaded.paymentStatus = body.paymentStatus)
    (hpaid : o.paymentStatus = .paid) :
    (RoutesOrders.recordPayment body loaded now o).paymentStatus = .paid := by
  simp only [RoutesOrders.recordPayment, RoutesOrders.assign]
  split
  next => exact hpaid
  next hnew =>
    rcases hbody with h | h
    · exact h
    · exact absurd h.symm hnew

theorem overrides_edit {user : AuthUser} {body : RoutesOrders.PaymentUpdateRequest}
    {requested id : Uuid} {before : PaymentStatus} {becamePaid : Bool} :
    overrides (.stock (.api (.updatePaymentStatus user requested body)))
        (.updatePaymentStatus id before becamePaid) orderId =
      (decide (id = orderId) && decide (body.paymentStatus ≠ .paid) && isManager user) := rfl

theorem overrides_refund {user : AuthUser} {body : RoutesOrders.RefundRequest}
    {result : RoutesOrders.RefundResult} {id : Uuid} :
    overrides (.stock (.api (.refundOrderPayment user orderId body result)))
        (.refundOrderPayment id) orderId =
      (decide (id = orderId) && recordsRefund body result) := rfl

theorem updatePaymentStatus_sound {user : AuthUser} {body : RoutesOrders.PaymentUpdateRequest} :
    Commits (Sound (.stock (.api (.updatePaymentStatus user orderId body))))
      (RoutesOrders.updatePaymentStatus user orderId body) := by
  apply commits_seq readOnly_requireStaffOrAbove
  intro _ _
  apply commits_seq RoutesOrders.readOnly_loadOrder
  intro loaded _
  apply commits_seq readOnly_ensure
  intro _ _
  apply commits_seq readOnly_ensure
  intro _ _
  apply commits_seq readOnly_readNow
  intro now _
  have hevent {session : Session} {event : OrderEvent} :
      (pure (session.stage [] (RoutesPayments.addOrderEvent event)) : Handler Session).ReadOnly
        (session.Extends KeepsPaid) :=
    Session.extends_stage (keepsPaid_of_same fun _ => rfl)
  apply commits_seq (readOnly_stageWhen keepsPaid_neutral hevent)
  rintro session ⟨f, hf, hpending⟩
  apply commits_bind
  · apply commits_commit
    rw [hpending]
    intro t id hpaid hmeets hquiet
    have hkey (o : Order) : key (RoutesOrders.recordPayment body loaded now o) = key o := rfl
    apply hf
    apply isPaid_setOrder hkey _ hpaid
    rintro o rfl ho
    apply recordPayment_paid _ ho
    rcases hmeets with hmanager | hbody | hbefore | hunpaid
    · left
      by_contra hbody
      rw [overrides_edit] at hquiet
      simp [hmanager, hbody] at hquiet
    · exact .inl hbody
    · exact .inr hbefore
    · rw [hpaid] at hunpaid
      exact absurd hunpaid (by simp)
  intro _
  apply commits_seq readOnly_refreshOrder
  intro order _
  split
  · apply commits_bind
    · have hwrites : Writes (fun site => site = .awardLoyaltyPoints order.id) KeepsPaid
          (Loyalty.awardLoyaltyPointsIfEnabled user.businessId order) :=
        Loyalty.awardLoyaltyPointsIfEnabled_writes keepsPaid_neutral rfl fun _ _ _ _ =>
          keepsPaid_of_same fun _ => rfl
      apply commits_of_writes hwrites
      rintro _ f rfl hf t id hpaid _ _
      exact hf t id hpaid
    · exact fun _ => commits_done order
  · exact commits_done order

theorem reversal_sound {request : Request} (site : CommitSite)
    (hwrites : Writes (fun site' => site' = site) (KeepsOthers orderId) (handle request))
    (hoverrides : overrides (.stock (.api request)) site orderId = true) :
    Commits (Sound (.stock (.api request))) (handle request) := by
  apply commits_of_writes hwrites
  rintro _ f rfl hf t id hpaid _ hquiet
  by_cases hid : id = orderId
  · rw [hid, hoverrides] at hquiet
    exact absurd hquiet (by simp)
  · exact hf t id hid hpaid

theorem providerRefund_unrecorded {user : AuthUser} {order : Order}
    {body : RoutesOrders.RefundRequest} {result : RoutesOrders.RefundResult}
    {S : CommitSite → Pending → Prop} (hincomplete : ¬ (result.success ∧ result.status = .completed))
    (hsaved : S (.refundOrderPayment order.id) id) :
    Commits S (RoutesOrders.providerRefund user order body result) := by
  apply commits_seq readOnly_ensure
  intro _ _
  apply commits_seq RoutesOrders.readOnly_refundAmount
  intro amountCents _
  apply commits_seq readOnly_loadBusiness
  intro business _
  apply commits_seq readOnly_ensure
  intro _ _
  apply commits_seq readOnly_readNow
  intro now _
  apply commits_seq (R := fun session => session = {})
  · simp only [Session.stageWhen, hincomplete, if_false]
    rfl
  rintro _ rfl
  apply commits_bind
  · exact commits_commit hsaved
  · intro _
    exact commits_readOnly readOnly_refreshOrder

theorem refundOrderPayment_sound {user : AuthUser} {body : RoutesOrders.RefundRequest}
    {result : RoutesOrders.RefundResult} :
    Commits (Sound (.stock (.api (.refundOrderPayment user orderId body result))))
      (handle (.refundOrderPayment user orderId body result)) := by
  cases hrecords : recordsRefund body result with
  | true =>
      have hset (status : PaymentStatus) (amountCents : Cents) (reference : Option String)
          (now : Instant) : KeepsOthers orderId
            (setOrder orderId (RoutesOrders.recordRefund status amountCents reference now)) :=
        keepsOthers_setOrder fun _ => rfl
      apply reversal_sound (.refundOrderPayment orderId)
      · exact reply_writes (RoutesOrders.refundOrderPayment_writes keepsOthers_neutral rfl hset
          fun _ => keepsOthers_of_same fun _ => rfl)
      · rw [overrides_refund, hrecords]
        simp
  | false =>
      simp only [recordsRefund, Bool.or_eq_false_iff, Bool.and_eq_false_iff,
        decide_eq_false_iff_not] at hrecords
      obtain ⟨hprovider, hincomplete⟩ := hrecords
      apply commits_bind
      · apply commits_seq readOnly_requireOwnerOrManager
        intro _ _
        apply commits_seq readOnly_loadOrderForUpdate
        intro order _
        simp only [hprovider, Bool.false_eq_true, if_false]
        apply providerRefund_unrecorded
        · rintro ⟨hsuccess, hcompleted⟩
          rcases hincomplete with h | h
          · rw [hsuccess] at h
            exact absurd h (by simp)
          · exact h hcompleted
        · intro t id hpaid _ _
          exact hpaid
      · exact fun _ => commits_done _

def edits : Request → Bool
  | .updatePaymentStatus .. => true
  | .refundOrderPayment .. => true
  | .refundPosOrder .. => true
  | .voidPosOrder .. => true
  | _ => false

theorem keepsPaid_of_stages {request : Request} {f : Pending} (hedits : edits request = false)
    (h : Stages request f) : KeepsPaid f := by
  cases h with
  | payOrder => exact keepsPaid_setOrder (fun _ => rfl) fun _ _ => rfl
  | insertOrder =>
      intro t id hpaid
      obtain ⟨o, ho, hpaid⟩ := isPaid_iff.mp hpaid
      exact isPaid_iff.mpr ⟨o, Table.lookup_insert_of_some ho, hpaid⟩
  | recordPayment => cases hedits
  | recordRefund => cases hedits
  | markRefunded => cases hedits
  | markVoided => cases hedits
  | _ => exact keepsPaid_of_same fun _ => rfl

theorem handle_sound {request : Request} :
    Commits (Sound (.stock (.api request))) (handle request) := by
  cases hedits : edits request with
  | false =>
      apply commits_of_writes (handle_writes keepsPaid_neutral fun f => keepsPaid_of_stages hedits)
      rintro site f - hf t id hpaid _ _
      exact hf t id hpaid
  | true =>
      cases request with
      | updatePaymentStatus user orderId body =>
          apply commits_bind
          · exact updatePaymentStatus_sound
          · exact fun _ => commits_done _
      | refundOrderPayment user orderId body result => exact refundOrderPayment_sound
      | refundPosOrder user orderId body =>
          have hset (amountCents cash : Cents) (full : Bool) (now : Instant) : KeepsOthers orderId
              (setOrder orderId (RoutesPos.markRefunded body amountCents cash full now)) :=
            keepsOthers_setOrder fun _ => rfl
          apply reversal_sound (.refundPosOrder orderId)
          · exact reply_writes (RoutesPos.refundPosOrder_writes keepsOthers_neutral rfl hset
              (fun _ => keepsOthers_of_same fun _ => rfl) (fun _ => keepsOthers_of_same fun _ => rfl)
              fun _ _ _ _ => keepsOthers_of_same fun _ => rfl)
          · exact decide_eq_true rfl
      | voidPosOrder user orderId reason =>
          have hset (amountCents cash : Cents) (now : Instant) : KeepsOthers orderId
              (setOrder orderId (RoutesPos.markVoided user.userId reason amountCents cash now)) :=
            keepsOthers_setOrder fun _ => rfl
          apply reversal_sound (.voidPosOrder orderId)
          · exact reply_writes (RoutesPos.voidPosOrder_writes keepsOthers_neutral rfl hset
              (fun _ => keepsOthers_of_same fun _ => rfl) (fun _ => keepsOthers_of_same fun _ => rfl)
              fun _ _ _ _ => keepsOthers_of_same fun _ => rfl)
          · exact decide_eq_true rfl
      | _ => cases hedits

theorem wrap_commits {α : Type} {S : CommitSite → Pending → Prop} {f : α → OrderReply}
    {x : Handler α} (h : Commits S x) : Commits S (wrap f x) :=
  commits_bind h fun _ => commits_done _

theorem serve_sound {request : OrderRequest} (h : Serves request) :
    Commits (Sound request) (serve request) := by
  cases h with
  | updateOrderStatus => exact wrap_commits updateOrderStatus_sound
  | cancelUnpaidOrders => exact wrap_commits (runJob_commits cancelUnpaidOrders_sound)
  | api => exact wrap_commits (commits_bind handle_sound fun _ => commits_done _)

end Writers

section Runs

variable {ι : Type} [DecidableEq ι] {requests : ι → OrderRequest} {db : Database}

def meets (requests : ι → OrderRequest) (i : ι) (site : CommitSite) (db : Database) : Prop :=
  Meets (requests i) site db.toTables

abbrev TimelyRun (requests : ι → OrderRequest) (c c' : Server ι) : Prop :=
  Reachable PaymentsKept (fun c i => c.Meets (meets requests i) i) c c'

def Kept (requests : ι → OrderRequest) (orderId : Uuid) (log : List (ι × CommitSite))
    (db' : Database) (log' : List (ι × CommitSite)) : Prop :=
  ∃ later, log' = log ++ later ∧ (isPaid orderId db'.toTables = true ∨
    ∃ entry ∈ later, overrides (requests entry.1) entry.2 orderId = true)

omit [DecidableEq ι] in
theorem kept_commit {i : ι} {site : CommitSite} {f : Pending} {orderId : Uuid} {db db' : Database}
    {start log : List (ι × CommitSite)} (hsound : Sound (requests i) site f)
    (hmeets : meets requests i site db) (hkept : Kept requests orderId start db log)
    (htables : db'.toTables = f db.toTables) :
    Kept requests orderId start db' (log ++ [(i, site)]) := by
  obtain ⟨later, rfl, hlater⟩ := hkept
  refine ⟨later ++ [(i, site)], List.append_assoc _ _ _, ?_⟩
  rcases hlater with hpaid | ⟨entry, hentry, hoverrides⟩
  · cases hoverrides : overrides (requests i) site orderId with
    | true => exact .inr ⟨(i, site), by simp, hoverrides⟩
    | false =>
        left
        rw [htables]
        exact hsound _ _ hpaid hmeets hoverrides
  · exact .inr ⟨entry, List.mem_append_left _ hentry, hoverrides⟩

theorem paid_until_overridden (hserves : ∀ i, Serves (requests i)) {c c' : Server ι}
    (hc : TimelyRun requests (serving db requests) c) (hc' : TimelyRun requests c c')
    {orderId : Uuid} (hpaid : isPaid orderId c.db.toTables = true) :
    Kept requests orderId c.log c'.db c'.log := by
  have hsound : ∀ i, Commits (Sound (requests i)) (c.prog i) :=
    commits_reachable (fun i => serve_sound (hserves i)) hc
  have henv (db db' : Database) (log : List (ι × CommitSite)) (hsame : PaymentsKept db db')
      (hkept : Kept requests orderId c.log db log) : Kept requests orderId c.log db' log := by
    obtain ⟨later, hlog, hlater⟩ := hkept
    exact ⟨later, hlog, hlater.imp_left (hsame orderId)⟩
  have hinit : Kept requests orderId c.log c.db c.log := ⟨[], by simp, .inl hpaid⟩
  exact (commits_invariant (fun _ _ _ _ _ _ => kept_commit) henv (fun _ _ h => h) hsound hinit
    hc').2

end Runs

instance (request : OrderRequest) (site : CommitSite) (t : Tables) :
    Decidable (Meets request site t) := by
  unfold Meets
  split <;> infer_instance

instance {ι : Type} (requests : ι → OrderRequest) (i : ι) (site : CommitSite) (db : Database) :
    Decidable (meets requests i site db) :=
  inferInstanceAs (Decidable (Meets _ _ _))

def acceptPayExpire : Fin 3 → OrderRequest
  | 0 => PaymentGate.moveTo "ACCEPTED"
  | 1 => PaymentGate.patchTo .paid
  | 2 => .cancelUnpaidOrders

theorem acceptPayExpire_serves (i : Fin 3) : Serves (acceptPayExpire i) := by
  match i with
  | 0 => exact .updateOrderStatus
  | 1 => exact .api
  | 2 => exact .cancelUnpaidOrders

theorem paid_order_outlives_timeout :
    ∃ c ∈ (serving PaymentGate.prepaid acceptPayExpire).schedule
        (fun c i => c.Meets (meets acceptPayExpire i) i) [0, 0, 0, 1, 1, 1],
      ∃ c' ∈ c.schedule (fun c i => c.Meets (meets acceptPayExpire i) i) [2, 2, 2],
        Kept acceptPayExpire 5 c.log c'.db c'.log := by
  have hrun : ∃ c ∈ (serving PaymentGate.prepaid acceptPayExpire).schedule
      (fun c i => c.Meets (meets acceptPayExpire i) i) [0, 0, 0, 1, 1, 1],
      isPaid 5 c.db.toTables = true ∧
        ∃ c' ∈ c.schedule (fun c i => c.Meets (meets acceptPayExpire i) i) [2, 2, 2], True := by
    decide +kernel
  obtain ⟨c, hc, hpaid, c', hc', -⟩ := hrun
  have hkept := paid_until_overridden acceptPayExpire_serves (schedule_reachable hc)
    (schedule_reachable hc') hpaid
  exact ⟨c, hc, c', hc', hkept⟩

-- A payment taken before the order is accepted is lost when it is accepted.
theorem paid_order_pending_on_acceptance :
    ¬ ∀ (db : Database) (requests : Fin 3 → OrderRequest) (c c' : Server (Fin 3)) (orderId : Uuid),
      (∀ i, Serves (requests i)) →
      Reachable PaymentsKept (fun _ _ => True) (serving db requests) c →
      Reachable PaymentsKept (fun _ _ => True) c c' → isPaid orderId c.db.toTables = true →
      Kept requests orderId c.log c'.db c'.log := by
  intro h
  have hrun : ∃ c ∈ (serving PaymentGate.prepaid acceptPayExpire).schedule (fun _ _ => True)
      [1, 1, 1], isPaid 5 c.db.toTables = true ∧
        ∃ c' ∈ c.schedule (fun _ _ => True) [0, 0, 0], isPaid 5 c'.db.toTables = false ∧
          ∀ entry ∈ c'.log.drop c.log.length,
            overrides (acceptPayExpire entry.1) entry.2 5 = false := by
    decide +kernel
  obtain ⟨c, hc, hpaid, c', hc', hlost, hnone⟩ := hrun
  obtain ⟨later, hlog, hlater⟩ := h _ _ c c' 5 acceptPayExpire_serves (schedule_reachable hc)
    (schedule_reachable hc') hpaid
  rw [hlog, List.drop_left] at hnone
  rcases hlater with hpaid' | ⟨entry, hentry, hoverrides⟩
  · rw [hlost] at hpaid'
    exact absurd hpaid' (by simp)
  · rw [hnone entry hentry] at hoverrides
    exact absurd hoverrides (by simp)

end NextgenBackend.PaidOrders
