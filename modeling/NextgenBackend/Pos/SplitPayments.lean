import NextgenBackend.Payments.ReversalGuard
import NextgenBackend.Pos.Placement

namespace NextgenBackend.SplitPayments

open Txn RoutesPos RoutesPayments

def Persists (t t' : Tables) : Prop :=
  ∀ id i, t.intents.lookup id = some i → ∃ i', t'.intents.lookup id = some i' ∧
    i'.amountCents = i.amountCents ∧ (i.status = .consumed → i'.status = .consumed)

theorem persists_same {t t' : Tables} (h : t'.intents = t.intents) : Persists t t' := by
  intro id i hi
  exact ⟨i, by rw [h, hi], rfl, fun h => h⟩

theorem Persists.trans {t t' t'' : Tables} (h : Persists t t') (h' : Persists t' t'') :
    Persists t t'' := by
  intro id i hi
  obtain ⟨i', hi', hamount, hconsumed⟩ := h id i hi
  obtain ⟨i'', hi'', hamount', hconsumed'⟩ := h' id i' hi'
  exact ⟨i'', hi'', hamount'.trans hamount, fun h => hconsumed' (hconsumed h)⟩

theorem persists_setIntent {t : Tables} {id : Uuid} {f : POSPaymentLinkIntent → POSPaymentLinkIntent}
    (hkey : ∀ i, key (f i) = key i) (hamount : ∀ i, (f i).amountCents = i.amountCents)
    (hpending : ∀ i, t.intents.lookup id = some i → i.status = .pending) :
    Persists t (setIntent id f t) := by
  intro id' i hi
  have hlookup : (setIntent id f t).intents.lookup id' = some (if id' = id then f i else i) := by
    rw [setIntent, Table.lookup_modify hkey]
    split
    next h => rw [← h, hi]; rfl
    next => exact hi
  refine ⟨_, hlookup, ?_⟩
  split
  next h =>
    subst h
    refine ⟨hamount i, fun hconsumed => ?_⟩
    rw [hpending i hi] at hconsumed
    cases hconsumed
  next => exact ⟨rfl, fun h => h⟩

structure Books (t t' : Tables) : Prop where
  intents : Persists t t'
  allocations : t'.allocations.map money = t.allocations.map money

theorem Books.refl (t : Tables) : Books t t := ⟨persists_same rfl, rfl⟩

theorem Books.trans {t t' t'' : Tables} (h : Books t t') (h' : Books t' t'') : Books t t'' :=
  ⟨h.intents.trans h'.intents, h'.allocations.trans h.allocations⟩

def Bookless (f : Pending) : Prop :=
  ∀ t, Books t (f t)

theorem bookless_neutral : Neutral Bookless where
  id := Books.refl
  comp _ _ hf hg t := (hf t).trans (hg _)

theorem bookless_aside {f : Pending} (h : Aside f) : Bookless f :=
  fun t => ⟨persists_same (h t).intents, (h t).allocations⟩

variable {db db' : Database} {user : AuthUser} {businessId intentId : Uuid}

theorem books_of_writes {α : Type} {sites : CommitSite → Prop} {x : Handler α}
    (h : Writes sites Bookless x) (db : Database) : Books db.toTables (x.run db).2.toTables :=
  writes_run Books.refl (fun _ _ _ => Books.trans) h db

abbrev Keeps {α : Type} (x : Handler α) (db : Database) : Prop :=
  x.Ensures db fun _ db' => Books db.toTables db'.toTables

theorem keeps_seq {α β : Type} {R : β → Prop} {x : Handler β} {f : β → Handler α}
    (hx : x.Yields db R) (hf : ∀ b, R b → Keeps (f b) db) : Keeps (x.bind f) db :=
  ensures_seq hx hf fun _ => Books.refl _

theorem keeps_setIntent {α : Type} {site : CommitSite} {k : Handler α}
    {f : POSPaymentLinkIntent → POSPaymentLinkIntent} (hkey : ∀ i, key (f i) = key i)
    (hamount : ∀ i, (f i).amountCents = i.amountCents)
    (hpending : ∀ i, db.intents.lookup intentId = some i → i.status = .pending)
    (hk : k.ReadOnly fun _ => True) :
    Keeps ((commit site (Session.stage {} [.intent intentId] (setIntent intentId f))).bind
      fun _ => k) db := by
  refine ensures_bind.mpr (commit_ensures (fun db' htables _ => ?_) fun _ => Books.refl _)
  have hbooks : Books db.toTables db'.toTables := by
    rw [htables]
    exact ⟨persists_setIntent hkey hamount hpending, rfl⟩
  exact hk.ensures (fun _ _ => hbooks) fun _ => hbooks

theorem maybeExpire_pending {i : POSPaymentLinkIntent} {now : Instant}
    (h : maybeExpire i now = true) : i.status = .pending := by
  simp only [maybeExpire, Bool.and_eq_true, decide_eq_true_eq] at h
  exact h.1

theorem pending_of_lookup {i : POSPaymentLinkIntent} (hi : db.intents.lookup intentId = some i)
    (hpending : i.status = .pending) :
    ∀ j, db.intents.lookup intentId = some j → j.status = .pending := by
  intro j hj
  obtain rfl := Option.some.inj (hi.symm.trans hj)
  exact hpending

theorem keeps_expireNow {site : CommitSite}
    (hpending : ∀ i, db.intents.lookup intentId = some i → i.status = .pending) :
    Keeps (expireNow site intentId) db :=
  keeps_setIntent (fun _ => rfl) (fun _ => rfl) hpending readOnly_refreshIntent

theorem loadPosPaymentIntent_found :
    (loadPosPaymentIntent businessId intentId).Yields db fun i =>
      db.intents.lookup intentId = some i := by
  refine yields_seq (S := fun row => row =
    (db.intents.lookup intentId).filter fun i => i.businessId = businessId) (yields_read rfl) ?_
  rintro row rfl
  exact yields_orFail fun i hi => (Option.filter_eq_some_iff.mp hi).1

theorem loadPosPaymentIntentForUpdate_found :
    (loadPosPaymentIntentForUpdate businessId intentId).Yields db fun i =>
      db.intents.lookup intentId = some i := by
  refine yields_seq (S := fun row => row =
    (db.intents.lookup intentId).filter fun i => i.businessId = businessId) (yields_lock rfl) ?_
  rintro row rfl
  exact yields_orFail fun i hi => (Option.filter_eq_some_iff.mp hi).1

theorem keeps_getPosPaymentIntent : Keeps (getPosPaymentIntent user intentId) db := by
  refine keeps_seq readOnly_requirePosEnabled.yields fun _ _ => ?_
  refine keeps_seq readOnly_requireStaffOrAbove.yields fun _ _ => ?_
  refine keeps_seq loadPosPaymentIntent_found fun i hi => ?_
  refine keeps_seq readOnly_readNow.yields fun now _ => ?_
  split
  next hexpired => exact keeps_expireNow (pending_of_lookup hi (maybeExpire_pending hexpired))
  next => exact Books.refl _

theorem keeps_resendPosPaymentIntent {tooSoon : Bool} :
    Keeps (resendPosPaymentIntent user intentId tooSoon) db := by
  refine keeps_seq readOnly_requirePosEnabled.yields fun _ _ => ?_
  refine keeps_seq readOnly_requireStaffOrAbove.yields fun _ _ => ?_
  refine keeps_seq loadPosPaymentIntentForUpdate_found fun i hi => ?_
  refine keeps_seq readOnly_readNow.yields fun now _ => ?_
  split
  next hexpired => exact keeps_expireNow (pending_of_lookup hi (maybeExpire_pending hexpired))
  next =>
    have hwrites : Writes (fun _ => True) Bookless
        ((commit (.resendPaymentLinkIntent intentId) {}).bind fun _ => refreshIntent intentId) :=
      writes_bind (writes_commit trivial bookless_neutral.refl) fun _ =>
        writes_readOnly readOnly_refreshIntent
    refine keeps_seq readOnly_ensure.yields fun _ _ => ?_
    refine keeps_seq readOnly_ensure.yields fun _ _ => ?_
    refine keeps_seq readOnly_ensure.yields fun _ _ => ?_
    refine keeps_seq readOnly_loadBusiness.yields fun _ _ => ?_
    exact books_of_writes hwrites db

theorem keeps_cancelPosPaymentIntent : Keeps (cancelPosPaymentIntent user intentId) db := by
  refine keeps_seq readOnly_requirePosEnabled.yields fun _ _ => ?_
  refine keeps_seq readOnly_requireStaffOrAbove.yields fun _ _ => ?_
  refine keeps_seq loadPosPaymentIntentForUpdate_found fun i hi => ?_
  refine keeps_seq readOnly_readNow.yields fun now _ => ?_
  split
  next hexpired => exact keeps_expireNow (pending_of_lookup hi (maybeExpire_pending hexpired))
  next =>
    refine keeps_seq ensure_ok.yields fun _ hpending => ?_
    refine keeps_seq readOnly_readNow.yields fun now _ => ?_
    exact keeps_setIntent (fun _ => rfl) (fun _ => rfl) (pending_of_lookup hi hpending)
      readOnly_refreshIntent

section Webhooks

variable {result : Payments.WebhookResult} {providerName : String}

theorem keeps_commit {site : CommitSite} {f : POSPaymentLinkIntent → POSPaymentLinkIntent}
    (hkey : ∀ i, key (f i) = key i) (hamount : ∀ i, (f i).amountCents = i.amountCents)
    (hpending : ∀ i, db.intents.lookup intentId = some i → i.status = .pending) :
    Keeps (commit site (Session.stage {} [.intent intentId] (setIntent intentId f))) db := by
  refine commit_ensures (fun db' htables _ => ?_) fun _ => Books.refl _
  rw [htables]
  exact ⟨persists_setIntent hkey hamount hpending, rfl⟩

theorem keeps_markIntentPaid {intentRef : String} :
    Keeps (markIntentPaid intentRef businessId result) db := by
  unfold markIntentPaid
  split
  · exact Books.refl _
  next id _ =>
    refine ensures_bind.mpr (ensures_lock.mpr ?_)
    dsimp only
    split
    · exact Books.refl _
    next i hi =>
      obtain ⟨hlookup, -⟩ := Option.filter_eq_some_iff.mp hi
      split
      · exact Books.refl _
      next hstatus =>
        have hpending : i.status = .pending := by simpa using hstatus
        have hpending := pending_of_lookup hlookup hpending
        refine keeps_seq readOnly_readNow.yields fun now _ => ?_
        split
        · exact keeps_commit (fun _ => rfl) (fun _ => rfl) hpending
        · split
          · exact Books.refl _
          · refine keeps_seq readOnly_textColumn.yields fun reference _ => ?_
            exact keeps_commit (fun _ => rfl) (fun _ => rfl) hpending

theorem keeps_markOrderPaid {orderRef : String} :
    Keeps (markOrderPaid orderRef businessId providerName result) db :=
  have hwrites : Writes (fun _ => True) Bookless
      (markOrderPaid orderRef businessId providerName result) :=
    markOrderPaid_writes bookless_neutral (fun _ => ⟨trivial, trivial⟩)
      (fun _ _ _ _ _ => ⟨persists_same rfl, rfl⟩) (fun _ => bookless_aside aside_addOrderEvent)
      fun _ _ _ => bookless_aside aside_postPoints
  books_of_writes hwrites db

theorem keeps_deliver : Keeps (deliver businessId providerName result) db := by
  unfold deliver
  split
  · exact Books.refl _
  · split
    · exact Books.refl _
    · dsimp only
      split
      · exact keeps_markIntentPaid
      · exact keeps_markOrderPaid

theorem keeps_jsonWebhook {verifySignature : Business → Payments.JsonDelivery → Bool}
    {handleWebhook : Payments.Json → Except Failure Payments.WebhookResult}
    {delivery : Payments.JsonDelivery} :
    Keeps (jsonWebhook providerName verifySignature handleWebhook businessId delivery) db := by
  refine keeps_seq readOnly_loadWebhookBusiness.yields fun business _ => ?_
  refine keeps_seq readOnly_ensure.yields fun _ _ => ?_
  refine keeps_seq readOnly_found.yields fun payload _ => ?_
  exact keeps_seq readOnly_raised.yields fun result _ => keeps_deliver

theorem keeps_payfastWebhook {delivery : Payments.FormDelivery} :
    Keeps (payfastWebhook businessId delivery) db := by
  refine keeps_seq readOnly_found.yields fun params _ => ?_
  refine keeps_seq readOnly_loadWebhookBusiness.yields fun business _ => ?_
  refine keeps_seq readOnly_ensure.yields fun _ _ => ?_
  exact keeps_seq readOnly_raised.yields fun result _ => keeps_deliver

end Webhooks

def Rung (event : Event) (s s' : Database) : Prop :=
  ∃ user orderId newCustomerId body r, event = .served (.createPosOrder user orderId newCustomerId body) r ∧
    ∃ p : Placement user orderId body s, Places p s'.toTables

theorem books_neutral {request : Request} {r : Except Failure Reply}
    (h : ∀ f, Stages request f → Bookless f) (hrun : (handle request).run db = (r, db')) :
    Books db.toTables db'.toTables := by
  have hbooks := books_of_writes (handle_writes bookless_neutral h) db
  rwa [hrun] at hbooks

theorem persists_insertIntent {t : Tables} {intent : POSPaymentLinkIntent} :
    Persists t (insertIntent intent t) := fun _ i hi =>
  ⟨i, Table.lookup_insert_of_some hi, rfl, fun h => h⟩

theorem keeps_served {request : Request} {r : Except Failure Reply}
    (hrun : (handle request).run db = (r, db')) :
    Books db.toTables db'.toTables ∨ Rung (.served request r) db db' := by
  cases request with
  | yocoWebhook businessId delivery =>
      exact .inl (reply_run keeps_jsonWebhook hrun).choose_spec.1
  | payfastWebhook businessId delivery =>
      exact .inl (reply_run keeps_payfastWebhook hrun).choose_spec.1
  | ikhokaWebhook businessId delivery =>
      exact .inl (reply_run keeps_jsonWebhook hrun).choose_spec.1
  | stitchWebhook businessId delivery =>
      exact .inl (reply_run keeps_jsonWebhook hrun).choose_spec.1
  | getPosPaymentIntent user intentId =>
      exact .inl (reply_run keeps_getPosPaymentIntent hrun).choose_spec.1
  | resendPosPaymentIntent user intentId tooSoon =>
      exact .inl (reply_run keeps_resendPosPaymentIntent hrun).choose_spec.1
  | cancelPosPaymentIntent user intentId =>
      exact .inl (reply_run keeps_cancelPosPaymentIntent hrun).choose_spec.1
  | createPosOrder user orderId newCustomerId body =>
      obtain ⟨r', hrings, rfl⟩ := reply_run createPosOrder_rings hrun
      rcases hrings with rfl | ⟨p, hplaces, -, -⟩
      · exact .inl (Books.refl _)
      · exact .inr ⟨user, orderId, newCustomerId, body, _, rfl, p, hplaces⟩
  | createPosPaymentIntent settings hostedUrl user intentId body =>
      refine .inl (books_neutral (fun f hf => ?_) hrun)
      cases hf with
      | insertIntent => exact fun _ => ⟨persists_insertIntent, rfl⟩
      | expireIntent hwebhook | payIntent hwebhook => cases hwebhook
      | _ => exact fun _ => ⟨persists_same rfl, rfl⟩
  | refundPosOrder user orderId body =>
      refine .inl (books_neutral (fun f hf => ?_) hrun)
      cases hf with
      | flagRefunded => exact bookless_aside aside_flagProviderRefundPending
      | expireIntent hwebhook | payIntent hwebhook => cases hwebhook
      | _ => exact fun _ => ⟨persists_same rfl, rfl⟩
  | voidPosOrder user orderId reason =>
      refine .inl (books_neutral (fun f hf => ?_) hrun)
      cases hf with
      | flagVoided => exact bookless_aside aside_flagProviderRefundPending
      | expireIntent hwebhook | payIntent hwebhook => cases hwebhook
      | _ => exact fun _ => ⟨persists_same rfl, rfl⟩
  | confirmPosOrderProviderRefund user orderId =>
      refine .inl (books_neutral (fun f hf => ?_) hrun)
      cases hf with
      | confirmProviderRefund => exact bookless_aside aside_confirmProviderRefund
      | expireIntent hwebhook | payIntent hwebhook => cases hwebhook
      | _ => exact fun _ => ⟨persists_same rfl, rfl⟩
  | _ =>
      refine .inl (books_neutral (fun f hf => ?_) hrun)
      cases hf with
      | expireIntent hwebhook | payIntent hwebhook => cases hwebhook
      | _ => exact fun _ => ⟨persists_same rfl, rfl⟩

theorem next_books {event : Event} (hnext : Next db event db') :
    Books db.toTables db'.toTables ∨ Rung event db db' := by
  cases event with
  | served request r => exact keeps_served hnext
  | environment =>
      exact .inl ⟨persists_same hnext.intents, congrArg (List.map money) hnext.allocations⟩

def link (a : POSPaymentAllocation) : Option Uuid :=
  a.paymentLinkIntentId

theorem map_link_money {rows rows' : Table POSPaymentAllocation}
    (h : rows'.map money = rows.map money) : rows'.filterMap link = rows.filterMap link := by
  have hmoney (rows : Table POSPaymentAllocation) :
      rows.filterMap link = (rows.map money).filterMap link := by
    rw [List.filterMap_map]
    rfl
  rw [hmoney, h, ← hmoney]

structure Spent (t : Tables) (a : POSPaymentAllocation) : Prop where
  named : a.paymentMethod = .payByLink → a.paymentLinkIntentId.isSome
  backed : ∀ id, a.paymentLinkIntentId = some id → a.paymentMethod = .payByLink ∧
    ∃ i, t.intents.lookup id = some i ∧ i.status = .consumed ∧ a.amountCents = i.amountCents

theorem Spent.of_money {t : Tables} {a b : POSPaymentAllocation} (h : Spent t a)
    (hmoney : money b = money a) : Spent t b := by
  have hmethod : b.paymentMethod = a.paymentMethod := congrArg (·.paymentMethod) hmoney
  have hlink : b.paymentLinkIntentId = a.paymentLinkIntentId :=
    congrArg (·.paymentLinkIntentId) hmoney
  have hamount : b.amountCents = a.amountCents := congrArg (·.amountCents) hmoney
  constructor
  · rw [hmethod, hlink]
    exact h.named
  · rw [hmethod, hlink, hamount]
    exact h.backed

theorem Spent.persist {t t' : Tables} {a : POSPaymentAllocation} (h : Spent t a)
    (hpersists : Persists t t') : Spent t' a := by
  refine ⟨h.named, fun id hid => ?_⟩
  obtain ⟨hmethod, i, hi, hconsumed, hamount⟩ := h.backed id hid
  obtain ⟨i', hi', hamount', hconsumed'⟩ := hpersists id i hi
  exact ⟨hmethod, i', hi', hconsumed' hconsumed, hamount.trans hamount'.symm⟩

def AllSpent (t : Tables) : Prop :=
  ∀ a ∈ t.allocations, Spent t a

theorem allSpent_books {t t' : Tables} (h : AllSpent t) (hbooks : Books t t') : AllSpent t' := by
  intro a ha
  have hmem : money a ∈ t.allocations.map money :=
    hbooks.allocations ▸ List.mem_map_of_mem ha
  obtain ⟨b, hb, hmoney⟩ := List.mem_map.mp hmem
  exact ((h b hb).of_money hmoney.symm).persist hbooks.intents

section Placements

variable {orderId : Uuid} {body : POSOrderCreateRequest} {payments : List POSPaymentAllocationRequest}
  {p : Placement user orderId body db} {q : POSPaymentAllocationRequest} {id : Uuid}

theorem split_amount {order : Order} {intents : List POSPaymentLinkIntent} {now : Instant}
    {position : Nat} : (splitAllocation order intents now q position).amountCents = q.amountCents := by
  unfold splitAllocation
  dsimp only
  split
  · rfl
  · split <;> rfl

theorem split_method {order : Order} {intents : List POSPaymentLinkIntent} {now : Instant}
    {position : Nat} :
    (splitAllocation order intents now q position).paymentMethod = q.paymentMethod := by
  unfold splitAllocation
  dsimp only
  split
  · rfl
  · split <;> rfl

theorem intent_found (hbody : body.payments = some payments) (hq : q ∈ payments)
    (hid : q.paymentIntentId = some id) :
    ∃ i, p.intents.find? (fun i => some i.id = q.paymentIntentId) = some i ∧ i.id = id ∧
      i.amountCents = q.amountCents ∧ i ∈ p.intents := by
  have hmatched := p.matched.1
  have hmem : (q.paymentIntentId, q.amountCents) ∈
      p.intents.map (fun i => (some i.id, i.amountCents)) := by
    rw [hmatched, hbody]
    exact List.mem_map.mpr ⟨q, List.mem_filter.mpr ⟨hq, by simp [hid]⟩, rfl⟩
  obtain ⟨j, hj, heq⟩ := List.mem_map.mp hmem
  obtain ⟨hjid, hjamount⟩ := Prod.mk.inj heq
  have hsome : (p.intents.find? fun i => some i.id = q.paymentIntentId).isSome :=
    List.find?_isSome.mpr ⟨j, hj, by simpa using hjid⟩
  obtain ⟨i, hi⟩ := Option.isSome_iff_exists.mp hsome
  have hiid : some i.id = q.paymentIntentId := by
    simpa using List.find?_some hi
  have himem : i ∈ p.intents := List.mem_of_find?_eq_some hi
  have hsame : i = j := by
    have hid' : i.id = j.id := Option.some.inj (hiid.trans hjid.symm)
    have := p.stored i himem
    rw [hid', p.stored j hj] at this
    exact (Option.some.inj this).symm
  refine ⟨i, hi, Option.some.inj (hiid.trans hid), ?_, himem⟩
  rw [hsame]
  exact hjamount

theorem split_link (hbody : body.payments = some payments) (hq : q ∈ payments) {order : Order}
    {now : Instant} {position : Nat} :
    link (splitAllocation order p.intents now q position) = q.paymentIntentId := by
  unfold splitAllocation
  dsimp only
  split
  next hcash => simp [link, q.linkScoped (by rw [hcash]; decide)]
  next =>
    split
    next hlink =>
      obtain ⟨id, hid⟩ := Option.isSome_iff_exists.mp (q.linkNamed hlink)
      obtain ⟨i, hi, hiid, -⟩ := intent_found (p := p) hbody hq hid
      change (p.intents.find? fun i => some i.id = q.paymentIntentId).map (·.id) = _
      rw [hi, hid, Option.map_some, hiid]
    next hother => simp [link, q.linkScoped hother]

theorem rows_amounts (hbody : body.payments = some payments) :
    ((allocationRows body p.order p.intents db.now).map (·.amountCents)).sum =
      p.order.totalCents := by
  have hrows : (allocationRows body p.order p.intents db.now).map (·.amountCents) =
      payments.map (·.amountCents) := by
    simp only [allocationRows, hbody, List.map_map]
    conv_rhs => rw [← List.zipIdx_map_fst 0 payments, List.map_map]
    exact List.map_congr_left fun _ _ => split_amount
  rw [hrows]
  exact p.covered payments hbody

theorem rows_links (hbody : body.payments = some payments) :
    (allocationRows body p.order p.intents db.now).filterMap link =
      payments.filterMap (·.paymentIntentId) := by
  simp only [allocationRows, hbody, List.filterMap_map]
  conv_rhs => rw [← List.zipIdx_map_fst 0 payments, List.filterMap_map]
  refine List.filterMap_congr fun x hx => ?_
  have hmem : x.1 ∈ payments := List.fst_mem_of_mem_zipIdx hx
  exact split_link hbody hmem

theorem split_spent {t : Tables} (hplaces : Places p t) (hbody : body.payments = some payments)
    (hq : q ∈ payments) {position : Nat} :
    Spent t (splitAllocation p.order p.intents db.now q position) := by
  have hlink : link (splitAllocation p.order p.intents db.now q position) = q.paymentIntentId :=
    split_link hbody hq
  constructor
  · rw [split_method]
    intro hmethod
    have hnamed := q.linkNamed hmethod
    rwa [← hlink] at hnamed
  · intro id hid
    have hid : q.paymentIntentId = some id := hlink.symm.trans hid
    obtain ⟨i, -, hiid, hamount, himem⟩ := intent_found (p := p) hbody hq hid
    have hmethod : q.paymentMethod = .payByLink := by
      by_contra hother
      rw [q.linkScoped hother] at hid
      cases hid
    have hlookup : db.intents.lookup id = some i := hiid ▸ p.stored i himem
    have hnamed : id ∈ p.intents.map (·.id) := hiid ▸ List.mem_map_of_mem himem
    refine ⟨split_method.trans hmethod, consumeIntent orderId db.now i, ?_, rfl, ?_⟩
    · rw [hplaces.intents, lookup_consumeIntents, hlookup, Option.map_some, if_pos hnamed]
    · exact split_amount.trans hamount.symm

theorem rows_spent {t : Tables} (hplaces : Places p t) :
    ∀ a ∈ allocationRows body p.order p.intents db.now, Spent t a := by
  intro a ha
  unfold allocationRows at ha
  split at ha
  next payments _ hbody =>
    obtain ⟨x, hx, rfl⟩ := List.mem_map.mp ha
    exact split_spent hplaces hbody (List.fst_mem_of_mem_zipIdx hx)
  next method _ hmethod =>
    have hkind : method ∈ [.cash, .card, .other] := body.methodAccepted method hmethod
    split at ha
    · obtain rfl := List.mem_singleton.mp ha
      refine ⟨fun hlink => ?_, fun id hid => by cases hid⟩
      have hlink : method = .payByLink := hlink
      rw [hlink] at hkind
      simp at hkind
    · cases ha
  next => cases ha

theorem persists_places {t : Tables} (hplaces : Places p t) : Persists db.toTables t := by
  intro id i hi
  have hlookup : t.intents.lookup id =
      some (if id ∈ p.intents.map (·.id) then consumeIntent orderId db.now i else i) := by
    rw [hplaces.intents, lookup_consumeIntents, hi, Option.map_some]
  refine ⟨_, hlookup, ?_⟩
  split
  · exact ⟨rfl, fun _ => rfl⟩
  · exact ⟨rfl, fun h => h⟩

theorem allSpent_places {t : Tables} (h : AllSpent db.toTables) (hplaces : Places p t) :
    AllSpent t := by
  intro a ha
  have hmem : money a ∈ (db.allocations ++ allocationRows body p.order p.intents db.now).map money :=
    hplaces.allocations ▸ List.mem_map_of_mem ha
  obtain ⟨b, hb, hmoney⟩ := List.mem_map.mp hmem
  rcases List.mem_append.mp hb with hb | hb
  · exact ((h b hb).of_money hmoney.symm).persist (persists_places hplaces)
  · exact (rows_spent hplaces b hb).of_money hmoney.symm

theorem places_links {t : Tables} (hplaces : Places p t) :
    t.allocations.filterMap link = db.allocations.filterMap link ++
      (allocationRows body p.order p.intents db.now).filterMap link := by
  rw [map_link_money hplaces.allocations, List.filterMap_append]

theorem links_disjoint (h : AllSpent db.toTables) (hbody : body.payments = some payments) :
    List.Disjoint (db.allocations.filterMap link)
      ((allocationRows body p.order p.intents db.now).filterMap link) := by
  intro id hold hnew
  obtain ⟨a, ha, hlink⟩ := List.mem_filterMap.mp hold
  rw [rows_links hbody] at hnew
  obtain ⟨q, hq, hid⟩ := List.mem_filterMap.mp hnew
  obtain ⟨-, i, hi, hconsumed, -⟩ := (h a ha).backed id hlink
  obtain ⟨j, -, hjid, -, hj⟩ := intent_found (p := p) hbody hq hid
  have hstored := p.stored j hj
  rw [hjid, hi] at hstored
  obtain rfl := Option.some.inj hstored
  rw [(p.matched.2 i hj).1] at hconsumed
  cases hconsumed

end Placements

def linkRecorded (t : Tables) : Cents :=
  ((t.allocations.filter fun a => a.paymentMethod = .payByLink).map (·.amountCents)).sum

def linkCollected (t : Tables) : Cents :=
  ((t.intents.filter fun i => i.status = .paid ∨ i.status = .consumed).map (·.amountCents)).sum

structure Collected (t : Tables) : Prop where
  amounts : ∀ a ∈ t.allocations, a.paymentMethod = .payByLink →
    ∃ i, a.paymentLinkIntentId = some i.id ∧ t.intents.lookup i.id = some i ∧
      a.amountCents = i.amountCents
  once : (t.allocations.filterMap (·.paymentLinkIntentId)).Nodup
  covered : linkRecorded t ≤ linkCollected t

theorem linkRecorded_le (hspent : AllSpent db.toTables)
    (honce : (db.allocations.filterMap link).Nodup) :
    linkRecorded db.toTables ≤ linkCollected db.toTables := by
  have hbacked (a : POSPaymentAllocation)
      (ha : a ∈ db.allocations.filter fun a => a.paymentMethod = .payByLink) :
      ∃ i, link a = some i.id ∧ db.intents.lookup i.id = some i ∧ i.status = .consumed ∧
        a.amountCents = i.amountCents := by
    obtain ⟨hmem, hmethod⟩ := List.mem_filter.mp ha
    have hspent := hspent a hmem
    obtain ⟨id, hid⟩ := Option.isSome_iff_exists.mp (hspent.named (by simpa using hmethod))
    obtain ⟨-, i, hi, hconsumed, hamount⟩ := hspent.backed id hid
    have hiid : i.id = id := Table.lookup_key hi
    exact ⟨i, hiid ▸ hid, hiid ▸ hi, hconsumed, hamount⟩
  have hdistinct : ((db.allocations.filter fun a => a.paymentMethod = .payByLink).filterMap
      link).Nodup := honce.sublist (List.filter_sublist.filterMap link)
  refine Table.sum_referred_le hdistinct (fun a ha => ?_) fun i hi => ?_
  · obtain ⟨i, hlink, hi, hconsumed, hamount⟩ := hbacked a ha
    exact ⟨i, hlink, hi, .inr hconsumed, hamount⟩
  · exact le_of_lt (db.valid .ckIntentsAmountPositive i hi)

section Runs

variable {steps taken : List (Event × Database)} {event : Event} {o : Order}
  {payments : List POSPaymentAllocationRequest}

def PlacesSplit (s : Database) (event : Event) (s' : Database) (o : Order)
    (payments : List POSPaymentAllocationRequest) : Prop :=
  ∃ user newCustomerId body r,
    event = .served (.createPosOrder user o.id newCustomerId body) r ∧
      body.payments = some payments ∧ s.orders.lookup o.id = none ∧
      s'.orders.lookup o.id = some o

def allocated (id : Uuid) (t : Tables) : Cents :=
  ((orderAllocations id t).map (·.amountCents)).sum

structure Collects (db : Database) (steps : List (Event × Database)) : Prop where
  books : ∀ taken, taken <+: steps → Collected (Run.last db taken).toTables
  sums : ∀ taken, taken <+: steps → ∀ earlier event s' o payments,
    earlier ++ [(event, s')] <+: taken →
    PlacesSplit (Run.last db earlier) event s' o payments →
    allocated o.id (Run.last db taken).toTables = o.totalCents

def NamesDistinct (s : Database) (event : Event) (s' : Database) : Prop :=
  ∀ o payments, PlacesSplit s event s' o payments → (payments.filterMap (·.paymentIntentId)).Nodup

theorem places_lookup {orderId : Uuid} {body : POSOrderCreateRequest}
    {p : Placement user orderId body db} (hplaces : Places p db'.toTables) :
    db.orders.lookup orderId = none ∧ db'.orders.lookup orderId = some p.order := by
  have hpk : db'.orders.PrimaryKey := db'.valid .ordersPkey
  rw [hplaces.orders] at hpk ⊢
  have hfresh := (Table.primaryKey_insert.mp hpk).2
  exact ⟨hfresh, Table.lookup_insert_self hfresh⟩

theorem placesSplit_placement (hnext : Next db event db') (h : PlacesSplit db event db' o payments) :
    ∃ user body, ∃ p : Placement user o.id body db, body.payments = some payments ∧
      Places p db'.toTables ∧ p.order = o := by
  obtain ⟨user, newCustomerId, body, r, rfl, hbody, hnone, hsome⟩ := h
  obtain ⟨r', hrings, -⟩ := reply_run createPosOrder_rings hnext
  rcases hrings with rfl | ⟨p, hplaces, -, -⟩
  · rw [hnone] at hsome
    cases hsome
  · have hlookup := (places_lookup hplaces).2
    exact ⟨user, body, p, hbody, hplaces, Option.some.inj (hlookup.symm.trans hsome)⟩

theorem orderAllocations_map {id : Uuid} {t t' : Tables}
    (h : t'.allocations.map money = t.allocations.map money) :
    (orderAllocations id t').map money = (orderAllocations id t).map money := by
  have hmoney (rows : Table POSPaymentAllocation) :
      (rows.filter fun a => a.orderId = id).map money =
        (rows.map money).filter fun a => a.orderId = id := by
    rw [List.filter_map]
    rfl
  unfold orderAllocations
  rw [hmoney, h, ← hmoney]

theorem allocated_money {id : Uuid} {t : Tables} :
    allocated id t = (((orderAllocations id t).map money).map (·.amountCents)).sum := by
  rw [List.map_map]
  rfl

theorem rows_orderId {orderId : Uuid} {body : POSOrderCreateRequest}
    {p : Placement user orderId body db} :
    ∀ a ∈ allocationRows body p.order p.intents db.now, a.orderId = orderId := by
  intro a ha
  unfold allocationRows at ha
  split at ha
  · obtain ⟨x, -, rfl⟩ := List.mem_map.mp ha
    unfold splitAllocation
    dsimp only
    split
    · rfl
    · split <;> rfl
  · split at ha
    · obtain rfl := List.mem_singleton.mp ha
      rfl
    · cases ha
  · cases ha

theorem orderAllocations_places {orderId id : Uuid} {body : POSOrderCreateRequest}
    {p : Placement user orderId body db} (hplaces : Places p db'.toTables) :
    (orderAllocations id db'.toTables).map money = if id = orderId
      then (allocationRows body p.order p.intents db.now).map money
      else (orderAllocations id db.toTables).map money := by
  have hrows : (orderAllocations id db'.toTables).map money = (orderAllocations id
      { db.toTables with
        allocations := db.allocations ++ allocationRows body p.order p.intents db.now }).map
          money := orderAllocations_map hplaces.allocations
  rw [hrows]
  simp only [orderAllocations, List.filter_append]
  split
  next hid =>
    subst hid
    have hold : db.allocations.filter (fun a => a.orderId = id) = [] := by
      refine List.filter_eq_nil_iff.mpr fun a ha hid => ?_
      have hfk := db.valid .fkAllocationsOrderId a ha
      rw [of_decide_eq_true hid, (places_lookup hplaces).1] at hfk
      cases hfk
    have hnew : (allocationRows body p.order p.intents db.now).filter (fun a => a.orderId = id) =
        allocationRows body p.order p.intents db.now :=
      List.filter_eq_self.mpr fun a ha => decide_eq_true (rows_orderId a ha)
    rw [hold, hnew, List.nil_append]
  next hid =>
    have hnew : (allocationRows body p.order p.intents db.now).filter (fun a => a.orderId = id) =
        [] := List.filter_eq_nil_iff.mpr fun a ha h =>
      hid ((of_decide_eq_true h).symm.trans (rows_orderId a ha))
    rw [hnew, List.append_nil]

-- What an order on file took is never booked again.
theorem next_allocations {id : Uuid} {s' : Database} (hnext : Next db event s')
    (hsome : (db.orders.lookup id).isSome) :
    (orderAllocations id s'.toTables).map money = (orderAllocations id db.toTables).map money := by
  rcases next_books hnext with hbooks | ⟨user, orderId, newCustomerId, body, r, rfl, p, hplaces⟩
  · exact orderAllocations_map hbooks.allocations
  · rw [orderAllocations_places hplaces, if_neg]
    rintro rfl
    rw [(places_lookup hplaces).1] at hsome
    cases hsome

theorem next_kept {id : Uuid} {s' : Database} (hnext : Next db event s')
    (hsome : (db.orders.lookup id).isSome) :
    (s'.orders.lookup id).isSome ∧ allocated id s'.toTables = allocated id db.toTables := by
  obtain ⟨o, ho⟩ := Option.isSome_iff_exists.mp hsome
  obtain rfl : o.id = id := Table.lookup_key ho
  obtain ⟨o', ho', -⟩ := ReversalGuard.next_steps ho hnext
  refine ⟨by rw [ho']; rfl, ?_⟩
  rw [allocated_money, next_allocations hnext hsome, ← allocated_money]

def Sums (db : Database) (taken : List (Event × Database)) : Prop :=
  ∀ earlier event s' o payments, earlier ++ [(event, s')] <+: taken →
    PlacesSplit (Run.last db earlier) event s' o payments →
    ((Run.last db taken).orders.lookup o.id).isSome ∧
      allocated o.id (Run.last db taken).toTables = o.totalCents

theorem sums_snoc {s' : Database} (h : Sums db taken) (hnext : Next (Run.last db taken) event s') :
    Sums db (taken ++ [(event, s')]) := by
  have hlast : Run.last db (taken ++ [(event, s')]) = s' := by simp [Run.last]
  intro earlier e s'' o payments hpre hplaced
  rw [hlast]
  rcases List.prefix_concat_iff.mp hpre with heq | hpre
  · obtain ⟨rfl, hstep⟩ := List.append_inj' heq rfl
    obtain ⟨rfl, rfl⟩ := Prod.mk.inj (List.singleton_inj.mp hstep)
    obtain ⟨user, body, p, hbody, hplaces, horder⟩ := placesSplit_placement hnext hplaced
    have hkept : s''.orders.lookup o.id = some p.order := (places_lookup hplaces).2
    have hsum : allocated o.id s''.toTables = o.totalCents := by
      rw [allocated_money, orderAllocations_places hplaces, if_pos rfl, List.map_map]
      exact (rows_amounts hbody).trans (congrArg Order.totalCents horder)
    exact ⟨by rw [hkept]; rfl, hsum⟩
  · obtain ⟨hsome, hsum⟩ := h earlier e s'' o payments hpre hplaced
    obtain ⟨hsome', hsame⟩ := next_kept hnext hsome
    exact ⟨hsome', hsame.trans hsum⟩

theorem run_sums (hrun : Run.Along Next db steps) : Sums db steps := by
  refine hrun.history ?_ fun taken event s' h hnext => sums_snoc h hnext
  intro earlier event s' o payments hpre
  simp at hpre

theorem allSpent_next {s' : Database} (h : AllSpent db.toTables) (hnext : Next db event s') :
    AllSpent s'.toTables := by
  rcases next_books hnext with hbooks | ⟨user, orderId, newCustomerId, body, r, rfl, p, hplaces⟩
  · exact allSpent_books h hbooks
  · exact allSpent_places h hplaces

theorem allSpent_nil (hempty : db.allocations = []) : AllSpent db.toTables := by
  intro a ha
  rw [hempty] at ha
  cases ha

theorem run_allSpent (hrun : Run.Along Next db steps) (hempty : db.allocations = []) :
    AllSpent (Run.last db steps).toTables :=
  hrun.invariant (I := fun s => AllSpent s.toTables) (allSpent_nil hempty)
    fun _ _ _ => allSpent_next

theorem rows_links_none {orderId : Uuid} {body : POSOrderCreateRequest}
    {p : Placement user orderId body db} (hbody : body.payments = none) :
    (allocationRows body p.order p.intents db.now).filterMap link = [] := by
  unfold allocationRows
  rw [hbody]
  cases body.paymentMethod with
  | none => rfl
  | some method =>
      dsimp only
      split <;> rfl

theorem links_next {s' : Database} (hspent : AllSpent db.toTables)
    (honce : (db.allocations.filterMap link).Nodup) (hnext : Next db event s')
    (hdistinct : NamesDistinct db event s') : (s'.allocations.filterMap link).Nodup := by
  rcases next_books hnext with hbooks | ⟨user, orderId, newCustomerId, body, r, rfl, p, hplaces⟩
  · rwa [map_link_money hbooks.allocations]
  · rw [places_links hplaces]
    cases hbody : body.payments with
    | none =>
        rw [rows_links_none hbody, List.append_nil]
        exact honce
    | some payments =>
        obtain ⟨hnone, hsome⟩ := places_lookup hplaces
        have hnames := hdistinct p.order payments
          ⟨user, newCustomerId, body, r, rfl, hbody, hnone, hsome⟩
        refine List.Nodup.append honce ?_ (links_disjoint hspent hbody)
        rw [rows_links hbody]
        exact hnames

theorem run_once (hrun : Run.Along Next db steps) (hempty : db.allocations = [])
    (hdistinct : Run.Along NamesDistinct db steps) :
    ((Run.last db steps).allocations.filterMap link).Nodup := by
  have hboth : Run.Along (fun s event s' => Next s event s' ∧ NamesDistinct s event s') db steps :=
    hrun.and hdistinct
  have hinv := hboth.invariant
    (I := fun s => AllSpent s.toTables ∧ (s.allocations.filterMap link).Nodup)
    ⟨allSpent_nil hempty, by simp [hempty]⟩
    fun s event s' h hstep => ⟨allSpent_next h.1 hstep.1, links_next h.1 h.2 hstep.1 hstep.2⟩
  exact hinv.2

theorem collected_of {s : Database} (hspent : AllSpent s.toTables)
    (honce : (s.allocations.filterMap link).Nodup) : Collected s.toTables := by
  refine ⟨fun a ha hmethod => ?_, honce, linkRecorded_le hspent honce⟩
  obtain ⟨id, hid⟩ := Option.isSome_iff_exists.mp ((hspent a ha).named hmethod)
  obtain ⟨-, i, hi, -, hamount⟩ := (hspent a ha).backed id hid
  have hiid : i.id = id := Table.lookup_key hi
  exact ⟨i, hiid ▸ hid, hiid ▸ hi, hamount⟩

theorem split_payments_collected_iff (hrun : Run.Along Next db steps)
    (hempty : db.allocations = []) :
    Collects db steps ↔ Run.Along NamesDistinct db steps := by
  constructor
  · intro hcollects
    refine Run.along_iff.mpr fun taken event s' hpre o payments hplaced => ?_
    have hlast : Run.last db (taken ++ [(event, s')]) = s' := by simp [Run.last]
    obtain ⟨user, body, p, hbody, hplaces, -⟩ :=
      placesSplit_placement (Run.along_iff.mp hrun taken event s' hpre) hplaced
    have honce := (hcollects.books _ hpre).once
    rw [hlast] at honce
    have hlinks : (s'.allocations.filterMap link).Nodup := honce
    rw [places_links hplaces, rows_links hbody] at hlinks
    exact (List.nodup_append.mp hlinks).2.1
  · intro hdistinct
    constructor
    · intro taken hpre
      exact collected_of (run_allSpent (hrun.of_prefix hpre) hempty)
        (run_once (hrun.of_prefix hpre) hempty (hdistinct.of_prefix hpre))
    · intro taken hpre earlier event s' o payments hearlier hplaced
      exact (run_sums (hrun.of_prefix hpre) earlier event s' o payments hearlier hplaced).2

end Runs

def burger : MenuItem where
  id := 2
  businessId := 1
  name := "Burger"
  priceCents := 100
  optionGroups := []
  removableIngredients := []
  addOnIds := []
  isActive := true
  isDeleted := false
  requiresPreparation := false

def morningTill : TillSession where
  id := 3
  businessId := 1
  openedByUserId := 7
  openingFloatCents := 0
  openedAt := 0

def paidLink : POSPaymentLinkIntent where
  id := 5
  businessId := 1
  tillSessionId := none
  createdByUserId := none
  amountCents := 100
  currency := "ZAR"
  provider := "YOCO"
  status := .paid
  customerPhone := none
  createdAt := 0
  expiresAt := 900

def teller : AuthUser where
  userId := 7
  businessId := 1
  role := .staff

def linkCollectedShop : Database where
  businesses := [{ id := 1, posYocoEnabled := true }]
  menuItems := [burger]
  tillSessions := [morningTill]
  intents := [paidLink]
  now := 10
  valid := Tables.violation_eq_none.mp (by decide +kernel)

def byLink : POSPaymentAllocationRequest where
  paymentMethod := .payByLink
  amountCents := 100
  cashTenderedCents := none
  paymentReference := none
  paymentIntentId := some 5
  methodAccepted := by decide
  amountPositive := by decide
  cashCovers := by simp
  cashScoped := by simp
  linkNamed := by simp
  linkScoped := by simp

def inCash : POSPaymentAllocationRequest where
  paymentMethod := .cash
  amountCents := 100
  cashTenderedCents := some 100
  paymentReference := none
  paymentIntentId := none
  methodAccepted := by decide
  amountPositive := by decide
  cashCovers := by simp
  cashScoped := by simp
  linkNamed := by simp
  linkScoped := by simp

def twoBurgers (first second : POSPaymentAllocationRequest) : POSOrderCreateRequest where
  items := [⟨2, 2, [], [], [], none⟩]
  orderMode := .pickup
  tableNumber := none
  customerName := none
  customerPhone := none
  discountCents := 0
  discountReason := none
  loyaltyRewardId := none
  paymentMethod := none
  cashTenderedCents := none
  paymentReference := none
  payments := some [first, second]
  idempotencyKey := none
  itemsNonempty := by simp
  quantities := by simp
  discountNonnegative := by decide
  methodAccepted := by simp
  paymentsNonempty := by simp
  onePaymentShape := by simp
  cashTendered := by simp
  cashScoped := by simp
  redemptionKeyed := by simp

def sell (first second : POSPaymentAllocationRequest) : List Request :=
  [.createPosOrder teller 4 8 (twoBurgers first second)]

theorem link_and_cash_collected :
    Collects linkCollectedShop (played linkCollectedShop (sell byLink inCash)) ↔
      Run.Along NamesDistinct linkCollectedShop (played linkCollectedShop (sell byLink inCash)) :=
  split_payments_collected_iff along_played rfl

theorem one_link_backs_two_allocations :
    ¬ ∀ (db : Database) (steps : List (Event × Database)), Run.Along Next db steps →
      db.allocations = [] → Collects db steps := by
  intro h
  have hcollects := h linkCollectedShop (played linkCollectedShop (sell byLink byLink))
    along_played rfl
  have htwice : ¬ ((Run.last linkCollectedShop
      (played linkCollectedShop (sell byLink byLink))).allocations.filterMap
        (·.paymentLinkIntentId)).Nodup := by
    decide +kernel
  exact htwice (hcollects.books _ List.prefix_rfl).once

end NextgenBackend.SplitPayments
