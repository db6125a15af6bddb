import NextgenBackend.Api.Effects

namespace NextgenBackend.ReversalGuard

open Txn RoutesPayments

open Payments (Json JsonDelivery WebhookResult posIntentPrefix parseUuid)

open RoutesOrders (isReversal recordPayment_status)

def isText : Option Json → Bool
  | none | some .null | some (.str _) => true
  | some _ => false

def deliveredJson (t : Tables) (verifySignature : Business → JsonDelivery → Bool)
    (handleWebhook : Json → Except Failure WebhookResult) (businessId : Uuid)
    (delivery : JsonDelivery) : Option (Uuid × WebhookResult) := do
  let business ← (t.businesses.lookup businessId).filter fun b => verifySignature b delivery
  let payload ← delivery.body
  let result ← (handleWebhook payload).toOption
  pure (business.id, result)

def deliveredForm (t : Tables) (businessId : Uuid) (delivery : Payments.FormDelivery) :
    Option (Uuid × WebhookResult) := do
  let params ← delivery.form
  let business ← (t.businesses.lookup businessId).filter fun b =>
    Payments.PayFast.verifySignature params delivery.signature b.paymentWebhookSecret
  let result ← (Payments.PayFast.handleWebhook params).toOption
  pure (business.id, result)

def delivered (t : Tables) : Request → Option (Uuid × WebhookResult)
  | .yocoWebhook businessId delivery =>
      deliveredJson t Payments.Yoco.verifySignature Payments.Yoco.handleWebhook businessId delivery
  | .ikhokaWebhook businessId delivery =>
      deliveredJson t Payments.IKhoka.verifySignature Payments.IKhoka.handleWebhook businessId
        delivery
  | .stitchWebhook businessId delivery =>
      deliveredJson t Payments.Stitch.verifySignature Payments.Stitch.handleWebhook businessId
        delivery
  | .payfastWebhook businessId delivery => deliveredForm t businessId delivery
  | _ => none

structure Confirms (businessId : Uuid) (result : WebhookResult) (o : Order) : Prop where
  business : o.businessId = businessId
  paid : result.paid = true
  named : ∃ ref ∈ result.orderId, ref.truthy = true ∧
    posIntentPrefix.toList.isPrefixOf ref.text.toList = false ∧ parseUuid ref.text = some o.id
  amount : amountCurrencyOk o result.amountCents result.currency = true
  reference : isText (newReference o result.reference) = true

def Delivers (d : Option (Uuid × WebhookResult)) (o : Order) : Prop :=
  ∃ r ∈ d, Confirms r.1 r.2 o

-- A request that makes an order PAID, or would if it were not PAID already.
def Pays (t : Tables) (request : Request) (o : Order) : Prop :=
  match request with
  | .updatePaymentStatus user orderId body =>
      orderId = o.id ∧ o.businessId = user.businessId ∧ body.paymentStatus = .paid
  | request => Delivers (delivered t request) o

def Marks (p : Prop) (o : Order) (db' : Database) : Prop :=
  ∃ o', db'.orders.lookup o.id = some o' ∧ (p → o'.paymentStatus = .paid) ∧
    (o' = o ∨ p ∧ ∃ reference now, o' = paidByWebhook reference now o)

variable {db db' : Database} {o : Order} {businessId : Uuid} {providerName : String}
  {result : WebhookResult} {p : Prop}

theorem marks_same (ho : db'.orders.lookup o.id = some o) (hp : p → o.paymentStatus = .paid) :
    Marks p o db' :=
  ⟨o, ho, hp, .inl rfl⟩

def KeepsOrder (id : Uuid) (f : Pending) : Prop :=
  ∀ t o, t.orders.lookup id = some o → (f t).orders.lookup id = some o

theorem keepsOrder_neutral {id : Uuid} : Neutral (KeepsOrder id) where
  id _ _ h := h
  comp f _ hf hg t o h := hg (f t) o (hf t o h)

theorem keepsOrder_setOrder {id orderId : Uuid} {set : Order → Order}
    (hkey : ∀ o, key (set o) = key o) (hne : id ≠ orderId) : KeepsOrder id (setOrder orderId set) := by
  intro t o ho
  rw [setOrder, Table.lookup_modify_ne hkey hne]
  exact ho

theorem run_keepsOrder {α : Type} {sites : CommitSite → Prop} {x : Handler α}
    (h : Writes sites (KeepsOrder o.id) x) (ho : db.orders.lookup o.id = some o) :
    (x.run db).2.orders.lookup o.id = some o := by
  have hkept : Writes sites (Preserves fun t => t.orders.lookup o.id = some o) x := by
    refine Conforms.mono h ?_ fun _ h => h
    rintro site keys write ⟨hsite, f, hf, rfl⟩
    exact ⟨hsite, f, fun t h => hf t o h, rfl⟩
  exact preserves_run hkept ho

theorem textColumn_ensures {value : Option Json} {Q : Except Failure (Option String) → Database → Prop}
    (hok : isText value = true → ∀ text, Q (.ok text) db)
    (herr : isText value = false → Q (.error .unhandled) db) : (textColumn value).Ensures db Q := by
  unfold textColumn
  split
  · exact hok rfl none
  · exact hok rfl none
  · exact hok rfl _
  next hnone hnull hstr =>
    refine herr ?_
    unfold isText
    split <;> simp_all

theorem keepsColumns_paidByWebhook {reference : Option String} {now : Instant} :
    KeepsColumns (paidByWebhook reference now) :=
  ⟨fun _ => rfl, fun _ => rfl, fun _ => rfl, fun _ => rfl, fun _ => rfl, fun _ => rfl⟩

theorem payOrder_marks {reference : Option String} {event : OrderEvent} {now : Instant}
    (ho : db.orders.lookup o.id = some o) (hp : p) :
    (((commit (.markOrderPaid o.id) ((Session.stage {} [.order o.id]
        (setOrder o.id (paidByWebhook reference now))).stage [] (addOrderEvent event))).bind
      fun _ => (refreshOrder o.id).bind fun order =>
        Loyalty.awardLoyaltyPointsIfEnabled businessId order).Ensures db
      fun _ db' => Marks p o db') := by
  have hvalid : ∀ c : Constraint, c.Holds
      (addOrderEvent event (setOrder o.id (paidByWebhook reference now) db.toTables)) :=
    holds_addOrderEvent (holds_setOrder keepsColumns_paidByWebhook db.valid)
  refine ensures_bind.mpr (ensures_save.mpr ⟨fun db1 hw => ?_, fun e hw => ?_⟩)
  · have horders : db1.orders = db.orders.modify o.id (paidByWebhook reference now) :=
      congrArg Tables.orders (Database.write_ok hw).1
    have hlookup : db1.orders.lookup o.id = some (paidByWebhook reference now o) := by
      rw [horders, Table.lookup_modify_self keepsColumns_paidByWebhook.id, ho]
      rfl
    refine ensures_bind.mpr (refreshOrder_ensures hlookup ?_)
    refine awardLoyaltyPointsIfEnabled_ensures fun db2 hbeside _ => ?_
    refine ⟨paidByWebhook reference now o, ?_, fun _ => rfl, .inr ⟨hp, reference, now, rfl⟩⟩
    rw [hbeside.orders]
    exact hlookup
  · have hok := Database.write_of_valid (f := fun t =>
      addOrderEvent event (setOrder o.id (paidByWebhook reference now) t)) hvalid
    cases hok.symm.trans hw

theorem markOrderPaid_marks {orderRef : String} (ho : db.orders.lookup o.id = some o)
    (hp : p ↔ parseUuid orderRef = some o.id ∧ o.businessId = businessId ∧
      amountCurrencyOk o result.amountCents result.currency = true ∧
      isText (newReference o result.reference) = true) :
    (markOrderPaid orderRef businessId providerName result).Ensures db
      fun _ db' => Marks p o db' := by
  by_cases hparse : parseUuid orderRef = some o.id
  · unfold markOrderPaid
    rw [hparse]
    dsimp only
    refine ensures_bind.mpr (ensures_read.mpr ?_)
    by_cases hbusiness : o.businessId = businessId
    · have hrow : (db.orders.lookup o.id).filter (fun o => o.businessId = businessId) = some o := by
        simp [ho, hbusiness]
      rw [hrow]
      dsimp only
      split
      next hpaid => exact marks_same ho fun _ => hpaid
      next hunpaid =>
        split
        next hamount => exact marks_same ho fun h => absurd (hp.mp h).2.2.1 hamount
        next hamount =>
          refine ensures_bind.mpr (ensures_read.mpr ?_)
          refine ensures_bind.mpr (textColumn_ensures (fun htext reference => ?_) fun htext => ?_)
          · exact payOrder_marks ho (hp.mpr ⟨hparse, hbusiness, by simpa using hamount, htext⟩)
          · refine marks_same ho fun h => ?_
            rw [(hp.mp h).2.2.2] at htext
            cases htext
    · have hrow : (db.orders.lookup o.id).filter (fun o => o.businessId = businessId) = none := by
        simp [ho, hbusiness]
      rw [hrow]
      exact marks_same ho fun h => absurd (hp.mp h).2.1 hbusiness
  · have hne (orderId : Uuid) (h : parseUuid orderRef = some orderId) : o.id ≠ orderId := by
      rintro rfl
      exact hparse h
    have hwrites : Writes (fun _ => True) (KeepsOrder o.id)
        (markOrderPaid orderRef businessId providerName result) :=
      markOrderPaid_writes keepsOrder_neutral (fun _ => ⟨trivial, trivial⟩)
        (fun _ _ _ h => keepsOrder_setOrder (fun _ => rfl) (hne _ h)) (fun _ _ _ h => h)
        fun _ _ _ _ _ h => h
    exact marks_same (run_keepsOrder hwrites ho) fun h => absurd (hp.mp h).1 hparse

theorem markIntentPaid_marks {intentRef : String} (ho : db.orders.lookup o.id = some o)
    (hp : ¬ p) :
    (markIntentPaid intentRef businessId result).Ensures db fun _ db' => Marks p o db' := by
  have hwrites : Writes (fun _ => True) (KeepsOrder o.id)
      (markIntentPaid intentRef businessId result) :=
    markIntentPaid_writes (fun _ => ⟨trivial, trivial⟩) (fun _ _ _ h => h) fun _ _ _ _ _ h => h
  exact marks_same (run_keepsOrder hwrites ho) fun h => absurd h hp

theorem deliver_marks (ho : db.orders.lookup o.id = some o)
    (hp : p ↔ Confirms businessId result o) :
    (deliver businessId providerName result).Ensures db fun _ db' => Marks p o db' := by
  have hkeep (h : ¬ Confirms businessId result o) : Marks p o db :=
    marks_same ho fun h' => absurd (hp.mp h') h
  unfold deliver
  split
  next hnone =>
    refine hkeep fun h => ?_
    obtain ⟨ref, href, -⟩ := h.named
    rw [hnone] at href
    cases href
  next ref href =>
    split
    next hskip =>
      refine hkeep fun h => hskip ?_
      obtain ⟨ref', href', htruthy, -⟩ := h.named
      obtain rfl := Option.some.inj (href.symm.trans href')
      exact ⟨h.paid, htruthy⟩
    next hpaid =>
      have hpaid : result.paid ∧ ref.truthy := by simpa using hpaid
      dsimp only
      split
      next hstart =>
        refine markIntentPaid_marks ho fun h => ?_
        obtain ⟨ref', href', -, hnot, -⟩ := (hp.mp h).named
        obtain rfl := Option.some.inj (href.symm.trans href')
        rw [hstart] at hnot
        cases hnot
      next hstart =>
        refine markOrderPaid_marks ho (hp.trans ⟨fun h => ?_, fun h => ?_⟩)
        · obtain ⟨ref', href', -, -, hparse⟩ := h.named
          obtain rfl := Option.some.inj (href.symm.trans href')
          exact ⟨hparse, h.business, h.amount, h.reference⟩
        · exact ⟨h.2.1, hpaid.1, ⟨ref, href, hpaid.2, Bool.eq_false_of_not_eq_true hstart, h.1⟩, h.2.2.1, h.2.2.2⟩

theorem delivers_none : ¬ Delivers none o := by
  rintro ⟨r, hr, -⟩
  cases hr

theorem jsonWebhook_marks {verifySignature : Business → JsonDelivery → Bool}
    {handleWebhook : Json → Except Failure WebhookResult} {delivery : JsonDelivery}
    (ho : db.orders.lookup o.id = some o) :
    (jsonWebhook providerName verifySignature handleWebhook businessId delivery).Ensures db
      fun _ db' => Marks (Delivers (deliveredJson db.toTables verifySignature handleWebhook
        businessId delivery) o) o db' := by
  have hkeep (h : deliveredJson db.toTables verifySignature handleWebhook businessId delivery =
      none) : Marks (Delivers (deliveredJson db.toTables verifySignature handleWebhook
        businessId delivery) o) o db :=
    marks_same ho fun h' => absurd (h ▸ h') delivers_none
  refine ensures_bind.mpr (ensures_bind.mpr (ensures_read.mpr ?_))
  refine ensures_orFail.mpr ⟨fun business hbusiness => ?_, fun hnone => ?_⟩
  · have hid : business.id = businessId := Table.lookup_key hbusiness
    refine ensures_bind.mpr (ensures_require.mpr ⟨fun hsigned => ?_, fun hforged => ?_⟩)
    · refine ensures_bind.mpr (ensures_orFail.mpr ⟨fun payload hpayload => ?_, fun hnone => ?_⟩)
      · refine ensures_bind.mpr ?_
        unfold raised
        split
        next result hresult =>
          have hdelivered : deliveredJson db.toTables verifySignature handleWebhook businessId
              delivery = some (business.id, result) := by
            simp [deliveredJson, hbusiness, hsigned, hpayload, hresult, Except.toOption,
              Option.filter_some]
          refine deliver_marks ho ?_
          rw [hdelivered, ← hid]
          simp [Delivers]
        next e he => exact hkeep (by simp [deliveredJson, hbusiness, hpayload, he, Except.toOption])
      · exact hkeep (by simp [deliveredJson, hnone])
    · exact hkeep (by simp [deliveredJson, hbusiness, hforged, Option.filter_some])
  · exact hkeep (by simp [deliveredJson, hnone])

theorem payfastWebhook_marks {delivery : Payments.FormDelivery}
    (ho : db.orders.lookup o.id = some o) :
    (payfastWebhook businessId delivery).Ensures db
      fun _ db' => Marks (Delivers (deliveredForm db.toTables businessId delivery) o) o db' := by
  have hkeep (h : deliveredForm db.toTables businessId delivery = none) :
      Marks (Delivers (deliveredForm db.toTables businessId delivery) o) o db :=
    marks_same ho fun h' => absurd (h ▸ h') delivers_none
  refine ensures_bind.mpr (ensures_orFail.mpr ⟨fun params hparams => ?_, fun hnone => ?_⟩)
  · refine ensures_bind.mpr (ensures_bind.mpr (ensures_read.mpr ?_))
    refine ensures_orFail.mpr ⟨fun business hbusiness => ?_, fun hnone => ?_⟩
    · have hid : business.id = businessId := Table.lookup_key hbusiness
      refine ensures_bind.mpr (ensures_require.mpr ⟨fun hsigned => ?_, fun hforged => ?_⟩)
      · refine ensures_bind.mpr ?_
        unfold raised
        split
        next result hresult =>
          have hdelivered : deliveredForm db.toTables businessId delivery =
              some (business.id, result) := by
            simp [deliveredForm, hparams, hbusiness, hsigned, hresult, Except.toOption,
              Option.filter_some]
          refine deliver_marks ho ?_
          rw [hdelivered, ← hid]
          simp [Delivers]
        next e he =>
          exact hkeep (by simp [deliveredForm, hparams, hbusiness, he, Except.toOption])
      · exact hkeep (by simp [deliveredForm, hparams, hbusiness, hforged, Option.filter_some])
    · exact hkeep (by simp [deliveredForm, hparams, hnone])
  · exact hkeep (by simp [deliveredForm, hnone])

def refundOf (id : Uuid) : Event → Option Cents
  | .served (.refundPosOrder _ orderId _) (.ok (.order o)) =>
      if orderId = id then o.refundAmountCents else none
  | .served (.voidPosOrder _ orderId _) (.ok (.order o)) =>
      if orderId = id then o.refundAmountCents else none
  | .served (.refundOrderPayment _ orderId body result) (.ok (.order o)) =>
      if orderId = id ∧ isRecorded body result then o.refundAmountCents else none
  | _ => none

def PaysIn (t : Tables) (event : Event) (o : Order) : Prop :=
  match event with
  | .served request _ => Pays t request o
  | .environment => False

structure Unreversed (t : Tables) (event : Event) (o o' : Order) : Prop where
  refund : refundOf o.id event = none
  refundedAt : o'.refundedAt = o.refundedAt
  status : isReversal o'.paymentStatus = true → o'.paymentStatus = o.paymentStatus
  paid : o'.paymentStatus = .paid → o.paymentStatus = .paid ∨ PaysIn t event o

structure Reversed (event : Event) (o o' : Order) : Prop where
  paid : o.paymentStatus = .paid
  refund : ∃ amount ≤ o.totalCents, refundOf o.id event = some amount
  refundedAt : o'.refundedAt.isSome
  status : isReversal o'.paymentStatus = true

structure Moves (t : Tables) (event : Event) (o o' : Order) : Prop where
  id : o'.id = o.id
  total : o'.totalCents = o.totalCents
  pays : PaysIn t event o → o'.paymentStatus = .paid
  effect : Unreversed t event o o' ∨ Reversed event o o'

theorem moves_same {t : Tables} {event : Event} (hrefund : refundOf o.id event = none)
    (hpays : PaysIn t event o → o.paymentStatus = .paid) : Moves t event o o :=
  ⟨rfl, rfl, hpays, .inl ⟨hrefund, rfl, fun _ => rfl, .inl⟩⟩

def Steps (db : Database) (event : Event) (o : Order) (db' : Database) : Prop :=
  ∃ o', db'.orders.lookup o.id = some o' ∧ Moves db.toTables event o o'

theorem steps_same {event : Event} (ho : db'.orders.lookup o.id = some o)
    (hrefund : refundOf o.id event = none)
    (hpays : PaysIn db.toTables event o → o.paymentStatus = .paid) : Steps db event o db' :=
  ⟨o, ho, moves_same hrefund hpays⟩

theorem steps_of_marks {request : Request} {r : Except Failure Reply}
    (h : Marks (Pays db.toTables request o) o db')
    (hrefund : refundOf o.id (.served request r) = none) :
    Steps db (.served request r) o db' := by
  obtain ⟨o', ho', hpaid, rfl | ⟨hpays, reference, now, rfl⟩⟩ := h
  · exact ⟨o', ho', rfl, rfl, hpaid, .inl ⟨hrefund, rfl, fun _ => rfl, .inl⟩⟩
  · refine ⟨_, ho', rfl, rfl, hpaid, .inl ⟨hrefund, rfl, fun h => ?_, fun _ => .inr hpays⟩⟩
    cases h

section Patch

variable {user : AuthUser} {body : RoutesOrders.PaymentUpdateRequest}

theorem keepsColumns_recordPayment {loaded : Order} {now : Instant} :
    KeepsColumns (RoutesOrders.recordPayment body loaded now) :=
  ⟨fun _ => rfl, fun _ => rfl, fun _ => rfl, fun _ => rfl, fun _ => rfl, fun _ => rfl⟩

def Quiet (f : Pending) : Prop :=
  ∀ t, (f t).orders = t.orders ∧
    ((∀ c : Constraint, c.Holds t) → ∀ c : Constraint, c.Holds (f t))

theorem quiet_neutral : Neutral Quiet where
  id _ := ⟨rfl, id⟩
  comp f _ hf hg t := ⟨(hg (f t)).1.trans (hf t).1, fun h => (hg (f t)).2 ((hf t).2 h)⟩

theorem quiet_addOrderEvent {event : OrderEvent} : Quiet (addOrderEvent event) :=
  fun _ => ⟨rfl, holds_addOrderEvent⟩

theorem ensure_ensures {q : Prop} [Decidable q] {error : AppError}
    {Q : Except Failure Unit → Database → Prop} (hq : q) (hQ : Q (.ok ()) db) :
    (ensure q error).Ensures db Q :=
  ensures_require.mpr ⟨fun _ => hQ, fun h => absurd hq h⟩

theorem loadOrder_ensures {Q : Except Failure Order → Database → Prop}
    (ho : db.orders.lookup o.id = some o) (hbusiness : o.businessId = businessId)
    (hQ : Q (.ok o) db) : (RoutesOrders.loadOrder businessId o.id).Ensures db Q := by
  have hrow : (db.orders.lookup o.id).filter (fun o => o.businessId = businessId) = some o := by
    simp [ho, hbusiness]
  refine ensures_bind.mpr (ensures_read.mpr ?_)
  rw [hrow]
  exact hQ

theorem savePayment_pays {session : Session} {now : Instant}
    (ho : db.orders.lookup o.id = some o) (hpaid : body.paymentStatus = .paid)
    (hs : (Session.stage {} [.order o.id]
      (setOrder o.id (RoutesOrders.recordPayment body o now))).Extends Quiet session) :
    ((commit (.updatePaymentStatus o.id o.paymentStatus (RoutesOrders.becomesPaid body o))
        session).bind fun _ =>
      (refreshOrder o.id).bind fun order =>
        if RoutesOrders.becomesPaid body o then do
          Loyalty.awardLoyaltyPointsIfEnabled user.businessId order
          pure order
        else pure order).Ensures db fun _ db' =>
      ∃ o', db'.orders.lookup o.id = some o' ∧ o'.paymentStatus = .paid := by
  obtain ⟨f, hf, hpending⟩ := hs
  have hset : ∀ c : Constraint,
      c.Holds (setOrder o.id (RoutesOrders.recordPayment body o now) db.toTables) :=
    holds_setOrder keepsColumns_recordPayment db.valid
  have hvalid : ∀ c : Constraint, c.Holds (session.pending db.toTables) := by
    rw [hpending]
    exact (hf _).2 hset
  have hstatus : (RoutesOrders.recordPayment body o now o).paymentStatus = .paid :=
    recordPayment_status.trans hpaid
  refine ensures_bind.mpr (commit_valid hvalid fun db1 htables => ?_)
  have horders : db1.orders = db.orders.modify o.id (RoutesOrders.recordPayment body o now) := by
    rw [htables, hpending]
    exact (hf _).1
  have hlookup : db1.orders.lookup o.id = some (RoutesOrders.recordPayment body o now o) := by
    rw [horders, Table.lookup_modify_self keepsColumns_recordPayment.id, ho]
    rfl
  refine ensures_bind.mpr (refreshOrder_ensures hlookup ?_)
  dsimp only
  split
  · refine ensures_bind.mpr (awardLoyaltyPointsIfEnabled_ensures fun db2 hbeside _ => ?_)
    exact ⟨_, hbeside.orders ▸ hlookup, hstatus⟩
  · exact ⟨_, hlookup, hstatus⟩

-- Marking an order PAID is never refused to a user of its business.
theorem updatePaymentStatus_pays (ho : db.orders.lookup o.id = some o)
    (hbusiness : o.businessId = user.businessId) (hpaid : body.paymentStatus = .paid) :
    (RoutesOrders.updatePaymentStatus user o.id body).Ensures db fun _ db' =>
      ∃ o', db'.orders.lookup o.id = some o' ∧ o'.paymentStatus = .paid := by
  have hrole : user.role = .staff ∨ user.role = .manager ∨ user.role = .owner := by
    cases user.role <;> simp
  have hforward : ¬ isReversal body.paymentStatus = true := by
    rw [hpaid]
    decide
  have hstays : ¬ (o.paymentStatus = .paid ∧ body.paymentStatus ≠ .paid ∧
      ¬ (user.role = .owner ∨ user.role = .manager)) := fun h => h.2.1 hpaid
  refine ensures_bind.mpr (ensure_ensures hrole ?_)
  refine ensures_bind.mpr (loadOrder_ensures ho hbusiness ?_)
  refine ensures_bind.mpr (ensure_ensures hforward ?_)
  refine ensures_bind.mpr (ensure_ensures hstays ?_)
  refine ensures_bind.mpr (ensures_read.mpr ?_)
  dsimp only
  unfold Session.stageWhen
  split
  · exact savePayment_pays ho hpaid (Session.extends_stage quiet_addOrderEvent)
  · exact savePayment_pays ho hpaid quiet_neutral.refl

end Patch

theorem untouched_steps {request : Request} {r : Except Failure Reply}
    (h : ∀ f, Stages request f → KeepsOrder o.id f) (ho : db.orders.lookup o.id = some o)
    (hrun : (handle request).run db = (r, db'))
    (hrefund : refundOf o.id (.served request r) = none) (hpays : ¬ Pays db.toTables request o) :
    Steps db (.served request r) o db' := by
  have hkept := run_keepsOrder (handle_writes keepsOrder_neutral h) ho
  rw [hrun] at hkept
  exact steps_same hkept hrefund fun h => absurd h hpays

theorem settles_same {orderId : Uuid} {done : Order → (Order → Order) → Prop}
    {r : Except Failure Order} (h : Settles orderId db done r db') (hne : o.id ≠ orderId)
    (hkey : ∀ o set, done o set → ∀ o, key (set o) = key o)
    (ho : db.orders.lookup o.id = some o) : db'.orders.lookup o.id = some o := by
  rcases h with ⟨e, -, rfl⟩ | ⟨o₀, set, -, hdone, hset, -⟩
  · exact ho
  · rw [hset.lookup_ne (hkey o₀ set hdone) hne, ho]

section Requests

variable {user : AuthUser} {orderId : Uuid} {r : Except Failure Reply}

theorem refundOf_error {request : Request} {e : Failure} :
    refundOf o.id (.served request (.error e)) = none := by
  cases request <;> rfl

theorem reversal_steps {request : Request} {set : Order → Order} {amountCents : Cents}
    (ho : db.orders.lookup o.id = some o) (hset : SetsOrder o.id set db db')
    (hkey : ∀ o, key (set o) = key o) (hpaid : o.paymentStatus = .paid)
    (htotal : (set o).totalCents = o.totalCents) (hamount : amountCents ≤ o.totalCents)
    (hrefund : refundOf o.id (.served request r) = some amountCents)
    (hrefundedAt : (set o).refundedAt.isSome) (hstatus : isReversal (set o).paymentStatus = true)
    (hpays : ¬ Pays db.toTables request o) : Steps db (.served request r) o db' :=
  ⟨set o, hset.lookup hkey ho, hkey o, htotal, fun h => absurd h hpays,
    .inr ⟨hpaid, ⟨amountCents, hamount, hrefund⟩, hrefundedAt, hstatus⟩⟩

theorem updatePaymentStatus_steps {body : RoutesOrders.PaymentUpdateRequest}
    (ho : db.orders.lookup o.id = some o)
    (hrun : (handle (.updatePaymentStatus user orderId body)).run db = (r, db')) :
    Steps db (.served (.updatePaymentStatus user orderId body) r) o db' := by
  obtain ⟨r', hsettles, rfl⟩ := reply_run updatePaymentStatus_ensures hrun
  rcases eq_or_ne o.id orderId with rfl | hne
  · have hpays (h : Pays db.toTables (.updatePaymentStatus user o.id body) o) :
        ∃ o', db'.orders.lookup o.id = some o' ∧ o'.paymentStatus = .paid := by
      obtain ⟨-, hbusiness, hpaid⟩ := h
      exact (reply_run (updatePaymentStatus_pays ho hbusiness hpaid) hrun).elim fun _ h => h.1
    rcases hsettles with ⟨e, rfl, rfl⟩ | ⟨o₀, set, ho₀, ⟨hbusiness, hforward, rfl⟩, hset, rfl⟩
    · refine steps_same ho refundOf_error fun h => ?_
      obtain ⟨o', ho', hpaid⟩ := hpays h
      obtain rfl := Option.some.inj (ho.symm.trans ho')
      exact hpaid
    · obtain rfl := Option.some.inj (ho.symm.trans ho₀)
      have hlookup := hset.lookup keepsColumns_recordPayment.id ho
      refine ⟨_, hlookup, rfl, rfl, fun h => ?_, .inl ⟨rfl, rfl, fun h => ?_, fun h => ?_⟩⟩
      · obtain ⟨o', ho', hpaid⟩ := hpays h
        obtain rfl := Option.some.inj (hlookup.symm.trans ho')
        exact hpaid
      · rw [recordPayment_status, hforward] at h
        cases h
      · exact .inr ⟨rfl, hbusiness, recordPayment_status.symm.trans h⟩
  · refine steps_same (settles_same hsettles hne ?_ ho) ?_ fun h => absurd h.1 hne.symm
    · rintro o₀ set ⟨-, -, rfl⟩
      exact keepsColumns_recordPayment.id
    · rfl

theorem refundPosOrder_steps {body : RoutesPos.POSRefundRequest}
    (ho : db.orders.lookup o.id = some o)
    (hrun : (handle (.refundPosOrder user orderId body)).run db = (r, db')) :
    Steps db (.served (.refundPosOrder user orderId body) r) o db' := by
  obtain ⟨r', hsettles, rfl⟩ := reply_run refundPosOrder_ensures hrun
  have hpays : ¬ Pays db.toTables (.refundPosOrder user orderId body) o := delivers_none
  rcases eq_or_ne o.id orderId with rfl | hne
  · rcases hsettles with ⟨e, rfl, rfl⟩ | ⟨o₀, set, ho₀, ⟨cash, hreversal, rfl⟩, hset, rfl⟩
    · exact steps_same ho refundOf_error fun h => absurd h hpays
    · obtain rfl := Option.some.inj (ho.symm.trans ho₀)
      refine reversal_steps ho hset (fun _ => rfl) hreversal.paid rfl hreversal.amount ?_ rfl ?_
        hpays
      · exact if_pos rfl
      · simp only [RoutesPos.markRefunded]
        split <;> rfl
  · refine steps_same (settles_same hsettles hne ?_ ho) ?_ fun h => absurd h hpays
    · rintro o₀ set ⟨cash, -, rfl⟩
      exact fun _ => rfl
    · cases r' with
      | ok o' => exact if_neg hne.symm
      | error e => exact refundOf_error

theorem voidPosOrder_steps {reason : String} (ho : db.orders.lookup o.id = some o)
    (hrun : (handle (.voidPosOrder user orderId reason)).run db = (r, db')) :
    Steps db (.served (.voidPosOrder user orderId reason) r) o db' := by
  obtain ⟨r', hsettles, rfl⟩ := reply_run voidPosOrder_ensures hrun
  have hpays : ¬ Pays db.toTables (.voidPosOrder user orderId reason) o := delivers_none
  rcases eq_or_ne o.id orderId with rfl | hne
  · rcases hsettles with ⟨e, rfl, rfl⟩ | ⟨o₀, set, ho₀, ⟨cash, hreversal, rfl⟩, hset, rfl⟩
    · exact steps_same ho refundOf_error fun h => absurd h hpays
    · obtain rfl := Option.some.inj (ho.symm.trans ho₀)
      refine reversal_steps ho hset (fun _ => rfl) hreversal.paid rfl (le_refl _) ?_ rfl rfl hpays
      exact if_pos rfl
  · refine steps_same (settles_same hsettles hne ?_ ho) ?_ fun h => absurd h hpays
    · rintro o₀ set ⟨cash, -, rfl⟩
      exact fun _ => rfl
    · cases r' with
      | ok o' => exact if_neg hne.symm
      | error e => exact refundOf_error

theorem refundOrderPayment_steps {body : RoutesOrders.RefundRequest}
    {result : RoutesOrders.RefundResult} (ho : db.orders.lookup o.id = some o)
    (hrun : (handle (.refundOrderPayment user orderId body result)).run db = (r, db')) :
    Steps db (.served (.refundOrderPayment user orderId body result) r) o db' := by
  obtain ⟨r', hsettles, rfl⟩ := reply_run refundOrderPayment_ensures hrun
  have hpays : ¬ Pays db.toTables (.refundOrderPayment user orderId body result) o := delivers_none
  rcases hsettles with ⟨hskip, hbeside, -⟩ | hsettles
  · refine steps_same (hbeside.orders ▸ ho) ?_ fun h => absurd h hpays
    cases r' with
    | ok o' => exact if_neg fun h => by simp [hskip] at h
    | error e => exact refundOf_error
  rcases eq_or_ne o.id orderId with rfl | hne
  · rcases hsettles with ⟨e, rfl, rfl⟩ | ⟨o₀, set, ho₀, hdone, hset, rfl⟩
    · exact steps_same ho refundOf_error fun h => absurd h hpays
    · obtain rfl := Option.some.inj (ho.symm.trans ho₀)
      obtain ⟨hrecorded, -, hpaid, hamount, status, reference, hstatus, rfl⟩ := hdone
      refine reversal_steps ho hset (fun _ => rfl) hpaid rfl hamount ?_ rfl hstatus hpays
      exact if_pos ⟨rfl, hrecorded⟩
  · refine steps_same (settles_same hsettles hne ?_ ho) ?_ fun h => absurd h hpays
    · rintro o₀ set ⟨-, -, -, -, status, reference, -, rfl⟩
      exact fun _ => rfl
    · cases r' with
      | ok o' => exact if_neg fun h => hne h.1.symm
      | error e => exact refundOf_error

theorem served_steps {request : Request} (ho : db.orders.lookup o.id = some o)
    (hrun : (handle request).run db = (r, db')) : Steps db (.served request r) o db' := by
  cases request with
  | yocoWebhook businessId delivery =>
      obtain ⟨r', hmarks, rfl⟩ := reply_run (jsonWebhook_marks ho) hrun
      exact steps_of_marks hmarks rfl
  | payfastWebhook businessId delivery =>
      obtain ⟨r', hmarks, rfl⟩ := reply_run (payfastWebhook_marks ho) hrun
      exact steps_of_marks hmarks rfl
  | ikhokaWebhook businessId delivery =>
      obtain ⟨r', hmarks, rfl⟩ := reply_run (jsonWebhook_marks ho) hrun
      exact steps_of_marks hmarks rfl
  | stitchWebhook businessId delivery =>
      obtain ⟨r', hmarks, rfl⟩ := reply_run (jsonWebhook_marks ho) hrun
      exact steps_of_marks hmarks rfl
  | updatePaymentStatus user orderId body => exact updatePaymentStatus_steps ho hrun
  | refundOrderPayment user orderId body result => exact refundOrderPayment_steps ho hrun
  | refundPosOrder user orderId body => exact refundPosOrder_steps ho hrun
  | voidPosOrder user orderId reason => exact voidPosOrder_steps ho hrun
  | createPosOrder user orderId newCustomerId body =>
      refine untouched_steps (fun f hf => ?_) ho hrun rfl delivers_none
      cases hf with
      | insertOrder => exact fun _ _ h => Table.lookup_insert_of_some h
      | payOrder hwebhook => cases hwebhook
      | _ => exact fun _ _ h => h
  | _ =>
      refine untouched_steps (fun f hf => ?_) ho hrun rfl delivers_none
      cases hf with
      | payOrder hwebhook => cases hwebhook
      | _ => exact fun _ _ h => h

end Requests

theorem next_steps {event : Event} (ho : db.orders.lookup o.id = some o)
    (hnext : Next db event db') : Steps db event o db' := by
  cases event with
  | served request r => exact served_steps ho hnext
  | environment => exact steps_same (hnext.orders ▸ ho) rfl False.elim

section Runs

variable {steps taken : List (Event × Database)}

def WasReversed (id : Uuid) (db : Database) : Prop :=
  ∃ o, db.orders.lookup id = some o ∧ isReversal o.paymentStatus = true

def refunds (id : Uuid) (steps : List (Event × Database)) : List Cents :=
  steps.filterMap fun step => refundOf id step.1

-- The order once paid back is never PAID again, and no more than its total is ever paid back.
structure Guarded (db : Database) (o : Order) (steps : List (Event × Database)) : Prop where
  bounded : ∀ taken, taken <+: steps → refunds o.id taken ≠ [] →
    (refunds o.id taken).sum ≤ o.totalCents
  final : ∀ taken, taken <+: steps → ∀ earlier, earlier <+: taken →
    WasReversed o.id (Run.last db earlier) →
    ∀ o', (Run.last db taken).orders.lookup o.id = some o' → o'.paymentStatus ≠ .paid

def NeverRepaid (id : Uuid) (db : Database) (event : Event) (_ : Database) : Prop :=
  ∀ o, db.orders.lookup id = some o → o.refundedAt.isSome → ¬ PaysIn db.toTables event o

def Tracks (db : Database) (o : Order) (taken : List (Event × Database)) (o' : Order) : Prop :=
  (Run.last db taken).orders.lookup o.id = some o' ∧ o'.id = o.id ∧
    o'.totalCents = o.totalCents ∧
    (o'.refundedAt.isSome ↔ ∃ earlier, earlier <+: taken ∧ WasReversed o.id (Run.last db earlier))

theorem tracks_nil (ho : db.orders.lookup o.id = some o) (hfresh : isReversal o.paymentStatus = false)
    (hnone : o.refundedAt = none) : Tracks db o [] o := by
  refine ⟨ho, rfl, rfl, ?_⟩
  simp only [hnone, Option.isSome_none, Bool.false_eq_true, List.prefix_nil, false_iff]
  rintro ⟨earlier, rfl, o', ho', hreversed⟩
  obtain rfl := Option.some.inj (ho.symm.trans ho')
  rw [hfresh] at hreversed
  cases hreversed

theorem tracks_snoc {o' : Order} {event : Event} {s' : Database} (h : Tracks db o taken o')
    (hnext : Next (Run.last db taken) event s') :
    ∃ o'', Tracks db o (taken ++ [(event, s')]) o'' ∧
      Moves (Run.last db taken).toTables event o' o'' := by
  obtain ⟨ho', hid, htotal, hsome⟩ := h
  obtain ⟨o'', ho'', hmoves⟩ := next_steps (hid ▸ ho') hnext
  rw [hid] at ho''
  have hlast : Run.last db (taken ++ [(event, s')]) = s' := by simp [Run.last]
  refine ⟨o'', ⟨by rw [hlast, ho''], hmoves.id.trans hid, hmoves.total.trans htotal, ?_⟩, hmoves⟩
  constructor
  · intro hrefunded
    rcases hmoves.effect with hkept | hreversed
    · obtain ⟨earlier, hpre, hwas⟩ := hsome.mp (hkept.refundedAt ▸ hrefunded)
      exact ⟨earlier, hpre.trans (List.prefix_append _ _), hwas⟩
    · exact ⟨_, List.prefix_rfl, o'', by rw [hlast, ho''], hreversed.status⟩
  · rintro ⟨earlier, hpre, hwas⟩
    rcases hmoves.effect with hkept | hreversed
    · rw [hkept.refundedAt]
      refine hsome.mpr ?_
      rcases List.prefix_concat_iff.mp hpre with rfl | hpre
      · obtain ⟨o₁, ho₁, hstatus⟩ := hwas
        rw [hlast] at ho₁
        obtain rfl := Option.some.inj (ho''.symm.trans ho₁)
        rw [hkept.status hstatus] at hstatus
        exact ⟨taken, List.prefix_rfl, o', ho', hstatus⟩
      · exact ⟨earlier, hpre, hwas⟩
    · exact hreversed.refundedAt

theorem run_tracks (hrun : Run.Along Next db steps) (ho : db.orders.lookup o.id = some o)
    (hfresh : isReversal o.paymentStatus = false) (hnone : o.refundedAt = none) :
    ∃ o', Tracks db o steps o' := by
  refine hrun.history (I := fun taken => ∃ o', Tracks db o taken o')
    ⟨o, tracks_nil ho hfresh hnone⟩ fun taken event s' h hnext => ?_
  obtain ⟨o', htracks⟩ := h
  obtain ⟨o'', htracks', -⟩ := tracks_snoc htracks hnext
  exact ⟨o'', htracks'⟩

def Settled (db : Database) (o : Order) (taken : List (Event × Database)) : Prop :=
  ∃ o', Tracks db o taken o' ∧ (o'.refundedAt = none → refunds o.id taken = []) ∧
    (o'.refundedAt.isSome → o'.paymentStatus ≠ .paid ∧ (refunds o.id taken).sum ≤ o.totalCents)

theorem refunds_snoc {id : Uuid} {event : Event} {s' : Database} :
    refunds id (taken ++ [(event, s')]) = refunds id taken ++ (refundOf id event).toList := by
  unfold refunds
  rw [List.filterMap_append, List.filterMap_cons, List.filterMap_nil]
  cases refundOf id event <;> rfl

theorem settled_snoc {event : Event} {s' : Database} (h : Settled db o taken)
    (hnext : Next (Run.last db taken) event s')
    (hrepaid : NeverRepaid o.id (Run.last db taken) event s') :
    Settled db o (taken ++ [(event, s')]) := by
  obtain ⟨o', htracks, hnone, hsome⟩ := h
  have ⟨ho', hid, htotal, _⟩ := htracks
  obtain ⟨o'', htracks', hmoves⟩ := tracks_snoc htracks hnext
  refine ⟨o'', htracks', ?_⟩
  rcases hmoves.effect with hkept | hreversed
  · have hrefunds : refunds o.id (taken ++ [(event, s')]) = refunds o.id taken := by
      rw [refunds_snoc, ← hid, hkept.refund]
      exact List.append_nil _
    rw [hrefunds, hkept.refundedAt]
    refine ⟨hnone, fun hrefunded => ⟨fun hpaid => ?_, (hsome hrefunded).2⟩⟩
    rcases hkept.paid hpaid with h | h
    · exact (hsome hrefunded).1 h
    · exact hrepaid o' ho' hrefunded h
  · obtain ⟨amountCents, hamount, hrefund⟩ := hreversed.refund
    have hfirst : o'.refundedAt = none := by
      by_contra hne
      exact (hsome (Option.isSome_iff_ne_none.mpr hne)).1 hreversed.paid
    have hrefunds : refunds o.id (taken ++ [(event, s')]) = [amountCents] := by
      rw [refunds_snoc, hnone hfirst, ← hid, hrefund]
      rfl
    refine ⟨fun h => ?_, fun _ => ⟨fun h => ?_, ?_⟩⟩
    · have := hreversed.refundedAt
      rw [h] at this
      cases this
    · have := hreversed.status
      rw [h] at this
      cases this
    · rw [hrefunds, List.sum_singleton, ← htotal]
      exact hamount

theorem run_settled (hrun : Run.Along Next db steps) (hrepaid : Run.Along (NeverRepaid o.id) db steps)
    (ho : db.orders.lookup o.id = some o) (hfresh : isReversal o.paymentStatus = false)
    (hnone : o.refundedAt = none) : Settled db o steps := by
  refine (hrun.and hrepaid).history ?_ fun taken event s' h hstep => settled_snoc h hstep.1 hstep.2
  refine ⟨o, tracks_nil ho hfresh hnone, fun _ => rfl, fun h => ?_⟩
  rw [hnone] at h
  cases h

theorem guarded_of_neverRepaid (hrun : Run.Along Next db steps)
    (hrepaid : Run.Along (NeverRepaid o.id) db steps) (ho : db.orders.lookup o.id = some o)
    (hfresh : isReversal o.paymentStatus = false) (hnone : o.refundedAt = none) :
    Guarded db o steps := by
  have hsettled (taken : List (Event × Database)) (hpre : taken <+: steps) : Settled db o taken :=
    run_settled (hrun.of_prefix hpre) (hrepaid.of_prefix hpre) ho hfresh hnone
  constructor
  · intro taken hpre hrefunds
    obtain ⟨o', -, hempty, hbounded⟩ := hsettled taken hpre
    cases hrefunded : o'.refundedAt with
    | none => exact absurd (hempty hrefunded) hrefunds
    | some now => exact (hbounded (by rw [hrefunded]; rfl)).2
  · intro taken hpre earlier hearlier hwas o₁ ho₁
    obtain ⟨o', ⟨ho', -, -, hsome⟩, -, hunpaid⟩ := hsettled taken hpre
    obtain rfl := Option.some.inj (ho'.symm.trans ho₁)
    exact (hunpaid (hsome.mpr ⟨earlier, hearlier, hwas⟩)).1

theorem neverRepaid_of_guarded (hrun : Run.Along Next db steps) (hguarded : Guarded db o steps)
    (ho : db.orders.lookup o.id = some o) (hfresh : isReversal o.paymentStatus = false)
    (hnone : o.refundedAt = none) : Run.Along (NeverRepaid o.id) db steps := by
  refine Run.along_iff.mpr fun taken event s' hpre o₁ ho₁ hrefunded hpays => ?_
  have htaken : taken <+: steps := (List.prefix_append _ _).trans hpre
  obtain ⟨o', htracks⟩ := run_tracks (hrun.of_prefix htaken) ho hfresh hnone
  have ⟨ho', hid, _, hsome⟩ := htracks
  obtain rfl := Option.some.inj (ho'.symm.trans ho₁)
  obtain ⟨earlier, hearlier, hwas⟩ := hsome.mp hrefunded
  obtain ⟨o'', ⟨ho'', -⟩, hmoves⟩ := tracks_snoc htracks (Run.along_iff.mp hrun taken event s' hpre)
  exact hguarded.final _ hpre earlier (hearlier.trans (List.prefix_append _ _)) hwas o'' ho''
    (hmoves.pays hpays)

theorem reversals_guarded_iff (hrun : Run.Along Next db steps)
    (ho : db.orders.lookup o.id = some o) (hfresh : isReversal o.paymentStatus = false)
    (hnone : o.refundedAt = none) :
    Guarded db o steps ↔ Run.Along (NeverRepaid o.id) db steps :=
  ⟨fun h => neverRepaid_of_guarded hrun h ho hfresh hnone,
    fun h => guarded_of_neverRepaid hrun h ho hfresh hnone⟩

end Runs

def cardSale : Order where
  id := 4
  businessId := 1
  customerId := none
  orderNumber := "BO-000001"
  status := .completed
  paymentStatus := .paid
  orderMode := .pickup
  source := .pos
  subtotalCents := 1000
  deliveryFeeCents := 0
  totalCents := 1000
  currency := "ZAR"
  paymentMethod := some .card

def afterSale : Database where
  businesses := [{ id := 1 }]
  orders := [cardSale]
  now := 50
  valid := Tables.violation_eq_none.mp (by decide +kernel)

def manager : AuthUser where
  userId := 9
  businessId := 1
  role := .manager

def fullRefund : RoutesPos.POSRefundRequest where
  amountCents := none
  reason := none
  restoreStock := false
  restoreLoyaltyPoints := false
  cashRefundCents := none
  amountPositive := by simp
  cashNonnegative := by simp

def markPaid : RoutesOrders.PaymentUpdateRequest where
  paymentStatus := .paid
  paymentMethod := none
  paymentReference := none
  methodAccepted := by simp

def refundTwice : List Request :=
  [.refundPosOrder manager 4 fullRefund, .refundPosOrder manager 4 fullRefund]

def repayBetween : List Request :=
  [.refundPosOrder manager 4 fullRefund, .updatePaymentStatus manager 4 markPaid,
    .refundPosOrder manager 4 fullRefund]

theorem card_sale_refunded_once :
    Guarded afterSale cardSale (played afterSale refundTwice) ↔
      Run.Along (NeverRepaid 4) afterSale (played afterSale refundTwice) :=
  reversals_guarded_iff along_played (by decide) (by decide) (by decide)

theorem card_sale_refunded_twice :
    ¬ ∀ (db : Database) (o : Order) (steps : List (Event × Database)), Run.Along Next db steps →
      db.orders.lookup o.id = some o → isReversal o.paymentStatus = false →
      o.refundedAt = none → Guarded db o steps := by
  intro h
  have hrun : Run.Along Next afterSale (played afterSale repayBetween) := along_played
  have hguarded := h afterSale cardSale _ hrun (by decide) (by decide) (by decide)
  have htwice : refunds 4 (played afterSale repayBetween) ≠ [] ∧
      ¬ (refunds 4 (played afterSale repayBetween)).sum ≤ 1000 := by
    decide +kernel
  exact htwice.2 (hguarded.bounded _ List.prefix_rfl htwice.1)

end NextgenBackend.ReversalGuard
