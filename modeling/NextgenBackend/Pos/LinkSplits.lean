import NextgenBackend.Pos.SplitPayments

namespace NextgenBackend.LinkSplits

open Txn RoutesPos

def links (payments : List POSPaymentAllocationRequest) : List Uuid :=
  payments.filterMap (·.paymentIntentId)

-- The uniqueness constraints on the intents and on the allocations.
def splitConstraints : List Constraint := [.intentsPkey, .uqIntentsOrderId, .allocationsPkey]

def Sound (t : Tables) : Prop := ∀ c ∈ splitConstraints, c.Holds t

def saleRows (user : AuthUser) (body : POSOrderCreateRequest) (sale : Sale) (order : Order)
    (intents : List POSPaymentLinkIntent) (now : Instant) : Pending :=
  insertOrderRows (sale.items.map (orderItem order))
      ⟨order.id, user.businessId, none, order.status, some user.userId, some (checkoutReason body)⟩
      (allocationRows body order intents now) ∘
    insertOrder order

-- The identifiers of an order and of its allocations are new ones.
structure Fresh (orderId : Uuid) (db : Database) : Prop where
  order : db.orders.lookup orderId = none
  allocations : ∀ a ∈ db.allocations, a.id.1 ≠ orderId

-- The order is committed with every intent consumed by it, or a constraint on something else
-- than the split refuses the sale.
def Lands (user : AuthUser) (orderId : Uuid) (body : POSOrderCreateRequest) (order : Order)
    (intents : List POSPaymentLinkIntent) (now : Instant) (db : Database)
    (r : Except Failure Order) (db' : Database) : Prop :=
  (r = .ok order ∧
    ∀ i ∈ intents, db'.intents.lookup i.id = some (consumeIntent orderId now i)) ∨
  ∃ c ∉ splitConstraints,
    (r, db') = (replayIdempotentCheckout user.businessId body (.integrity c)).run db

structure Honoured (user : AuthUser) (orderId newCustomerId : Uuid)
    (body : POSOrderCreateRequest) (sale : Sale) (order : Order)
    (intents : List POSPaymentLinkIntent) (now : Instant) (session : Session) (db : Database) :
    Prop where
  unique : Sound (saleRows user body sale order intents now (session.pending db.toTables))
  commits : (createPosOrder user orderId newCustomerId body).Ensures db
    (Lands user orderId body order intents now db)

variable {db : Database} {user : AuthUser} {orderId newCustomerId : Uuid}
  {body : POSOrderCreateRequest} {p : Placement user orderId body db} {t t' : Tables}
  {payments : List POSPaymentAllocationRequest} {session : Session}

theorem sound_iff : Sound t ↔
    t.intents.PrimaryKey ∧ t.intents.Unique (·.orderId) ∧ t.allocations.PrimaryKey := by
  unfold Sound splitConstraints
  rw [List.forall_mem_cons, List.forall_mem_cons, List.forall_mem_singleton]
  rfl

theorem map_key_money {rows rows' : Table POSPaymentAllocation}
    (h : rows'.map money = rows.map money) : rows'.map key = rows.map key := by
  have hkey : (key ∘ money : POSPaymentAllocation → Uuid × Nat) = key := rfl
  have hkeys := congrArg (List.map key) h
  rwa [List.map_map, List.map_map, hkey] at hkeys

theorem Sound.of_beside (h : Sound t) (hbeside : Beside t t') : Sound t' := by
  obtain ⟨hintents, hunique, hallocations⟩ := sound_iff.mp h
  refine sound_iff.mpr ⟨?_, ?_, ?_⟩
  · rwa [hbeside.intents]
  · rwa [hbeside.intents]
  · unfold Table.PrimaryKey at hallocations ⊢
    rwa [map_key_money hbeside.allocations]

theorem intents_named (hbody : body.payments = some payments) :
    p.intents.map (·.id) = links payments := by
  have hnamed := congrArg (List.map Prod.fst) p.matched.1
  rw [hbody, Option.getD_some, List.map_map, List.map_map] at hnamed
  have hids : p.intents.map (·.id) = (p.intents.map fun i => some i.id).filterMap id := by
    rw [List.filterMap_map, ← List.filterMap_eq_map]
    rfl
  unfold links
  rw [hids]
  change (p.intents.map (Prod.fst ∘ fun i => (some i.id, i.amountCents))).filterMap id = _
  rw [hnamed, List.filterMap_map, List.filterMap_filter]
  refine List.filterMap_congr fun q _ => ?_
  cases h : q.paymentIntentId <;> simp [h]

theorem map_key_consumeIntents {now : Instant} {intents : List POSPaymentLinkIntent} :
    (consumeIntents orderId now intents t).intents.map key = t.intents.map key := by
  induction intents generalizing t with
  | nil => rfl
  | cons i intents ih =>
      change (consumeIntents orderId now intents
        { t with intents := t.intents.modify i.id (consumeIntent orderId now) }).intents.map key = _
      rw [ih]
      exact Table.map_key_modify fun _ => rfl

theorem consumed_lookup {i : POSPaymentLinkIntent} (hi : i ∈ p.intents) :
    (consumeIntents orderId db.now p.intents db.toTables).intents.lookup i.id =
      some (consumeIntent orderId db.now i) := by
  rw [lookup_consumeIntents, p.stored i hi, Option.map_some, if_pos (List.mem_map_of_mem hi)]

theorem order_unused (h : db.orders.lookup orderId = none) :
    ∀ i ∈ db.intents, i.orderId ≠ some orderId := by
  intro i hi ho
  have hsome : (db.orders.lookup orderId).isSome := db.valid .fkIntentsOrderId i hi orderId ho
  rw [h] at hsome
  cases hsome

-- The index allows an order one intent, whatever the number its payments name.
theorem consumed_unique_iff (hfresh : Fresh orderId db)
    (hdistinct : (p.intents.map (·.id)).Nodup) :
    (consumeIntents orderId db.now p.intents db.toTables).intents.Unique (·.orderId) ↔
      p.intents.length ≤ 1 := by
  have hpk : db.intents.PrimaryKey := db.valid .intentsPkey
  have hunique : db.intents.Unique (·.orderId) := db.valid .uqIntentsOrderId
  have hlookup {i : POSPaymentLinkIntent} (hi : i ∈ p.intents) := consumed_lookup hi
  match hintents : p.intents with
  | [] => exact iff_of_true hunique (Nat.zero_le _)
  | [i] =>
      exact iff_of_true
        (hunique.modify hpk (order_unused hfresh.order) fun _ => rfl) (Nat.le_refl _)
  | i :: j :: intents =>
      refine iff_of_false (fun h => ?_) (by simp)
      rw [hintents] at hlookup hdistinct
      have hi : i ∈ i :: j :: intents := List.mem_cons_self
      have hj : j ∈ i :: j :: intents := List.mem_cons_of_mem _ List.mem_cons_self
      have hsame := h.eq_of_mem (Table.lookup_mem (hlookup hi)) (Table.lookup_mem (hlookup hj))
        rfl rfl
      have hid : (consumeIntent orderId db.now i).id = (consumeIntent orderId db.now j).id :=
        congrArg _ hsame
      change i.id = j.id at hid
      rw [List.map_cons, List.map_cons, hid] at hdistinct
      exact (List.nodup_cons.mp hdistinct).1 List.mem_cons_self

theorem allocations_keyed (hfresh : Fresh orderId db) (hbody : body.payments = some payments) :
    (db.allocations ++ allocationRows body p.order p.intents db.now).PrimaryKey := by
  have hkeys : (allocationRows body p.order p.intents db.now).map key =
      payments.zipIdx.map fun x => (orderId, x.2) := by
    simp only [allocationRows, hbody, List.map_map]
    refine List.map_congr_left fun x _ => ?_
    change (splitAllocation p.order p.intents db.now x.1 x.2).id = _
    unfold splitAllocation
    split
    · rfl
    · split <;> rfl
  unfold Table.PrimaryKey
  rw [List.map_append, hkeys, List.nodup_append]
  refine ⟨db.valid .allocationsPkey, ?_, ?_⟩
  · have hpositions : (payments.zipIdx.map Prod.snd).Nodup := by
      rw [List.zipIdx_map_snd]
      exact List.nodup_range'
    refine List.Nodup.of_map Prod.snd ?_
    rw [List.map_map]
    exact hpositions
  · rintro _ hold _ hnew rfl
    obtain ⟨a, ha, rfl⟩ := List.mem_map.mp hold
    obtain ⟨x, -, hx⟩ := List.mem_map.mp hnew
    exact hfresh.allocations a ha (congrArg Prod.fst hx.symm)

theorem sound_saleRows_iff (h : Consuming p (session.pending db.toTables))
    (hfresh : Fresh orderId db) (hbody : body.payments = some payments)
    (hdistinct : (links payments).Nodup) :
    Sound (saleRows user body p.sale p.order p.intents db.now (session.pending db.toTables)) ↔
      (links payments).length ≤ 1 := by
  have hnamed : p.intents.map (·.id) = links payments := intents_named hbody
  have hintents : (session.pending db.toTables).intents =
      (consumeIntents orderId db.now p.intents db.toTables).intents := h.intents
  have hkeyed : (consumeIntents orderId db.now p.intents db.toTables).intents.PrimaryKey := by
    unfold Table.PrimaryKey
    rw [map_key_consumeIntents]
    exact db.valid .intentsPkey
  have hallocations : Table.PrimaryKey ((session.pending db.toTables).allocations ++
      allocationRows body p.order p.intents db.now) := by
    have hold := map_key_money h.allocations
    have hnew := allocations_keyed (p := p) hfresh hbody
    unfold Table.PrimaryKey at hnew ⊢
    rwa [List.map_append, hold, ← List.map_append]
  rw [sound_iff, ← hnamed, List.length_map]
  change (session.pending db.toTables).intents.PrimaryKey ∧
    (session.pending db.toTables).intents.Unique (·.orderId) ∧ _ ↔ _
  rw [hintents, consumed_unique_iff hfresh (hnamed ▸ hdistinct)]
  exact ⟨fun h => h.2.1, fun h => ⟨hkeyed, h, hallocations⟩⟩

theorem postSaleConsumption_ok {businessId : Uuid} {userId : Option Uuid}
    {specs : List Inventory.LineItemSpec} {occurredAt : Instant} :
    ∃ session', (Inventory.postSaleConsumption session businessId orderId userId specs
      occurredAt).run db = (.ok session', db) := by
  unfold Inventory.postSaleConsumption
  change ∃ session', (ite _ _ _ : Handler Session).run db = (.ok session', db)
  split
  · exact ⟨_, rfl⟩
  · exact ⟨_, rfl⟩

theorem admitted_placed {sale : Sale} {order : Order} {intents : List POSPaymentLinkIntent}
    {now : Instant} (h : ((admission user orderId newCustomerId body).run db).1 =
      .ok (.admitted sale order intents now session)) :
    ∃ p : Placement user orderId body db, p.sale = sale ∧ p.order = order ∧
      p.intents = intents ∧ now = db.now ∧ Consuming p (session.pending db.toTables) ∧
        ((admission user orderId newCustomerId body).run db).2 = db := by
  obtain ⟨hdb, hplaced⟩ := admission_placed (Q := fun _ _ => True)
    (fun _ => checkoutKeeps_true) prepareSale_yields
  obtain ⟨p, hsale, horder, hintents, hnow, hconsuming, -⟩ := hplaced _ h
  exact ⟨p, hsale, horder, hintents, hnow, hconsuming, hdb⟩

theorem lands_refused {order : Order} {intents : List POSPaymentLinkIntent} {now : Instant}
    {c : Constraint} (ht : Sound t) (hc : t.violation = some c) :
    (replayIdempotentCheckout user.businessId body (.integrity c)).Ensures db
      (Lands user orderId body order intents now db) :=
  .inr ⟨c, fun hsplit => Tables.violation_eq_some hc (ht c hsplit), rfl⟩

theorem saveCheckout_lands (h : Consuming p (session.pending db.toTables))
    (hsound : Sound (saleRows user body p.sale p.order p.intents db.now
      (session.pending db.toTables))) :
    (saveCheckout user body p.sale p.order p.intents db.now session).Ensures db
      (Lands user orderId body p.order p.intents db.now db) := by
  have hinserted : Sound (insertOrder p.order (session.pending db.toTables)) := by
    obtain ⟨hkeyed, hunique, -⟩ := sound_iff.mp hsound
    refine sound_iff.mpr ⟨hkeyed, hunique, ?_⟩
    change Table.PrimaryKey (session.pending db.toTables).allocations
    unfold Table.PrimaryKey
    rw [map_key_money h.allocations]
    exact db.valid .allocationsPkey
  refine ensures_bind.mpr (ensures_read.mpr ?_)
  dsimp only
  split
  next fault hfault =>
    obtain ⟨c, hc, rfl⟩ := Option.map_eq_some_iff.mp hfault
    exact lands_refused hinserted hc
  next =>
    let rows := (session.stage [] (insertOrder p.order)).stage []
      (insertOrderRows (p.sale.items.map (orderItem p.order))
        ⟨p.order.id, user.businessId, none, p.order.status, some user.userId,
          some (checkoutReason body)⟩
        (allocationRows body p.order p.intents db.now))
    let stocked := rows.stageWhen p.sale.business.inventoryEnabled fun session =>
      Inventory.postSaleConsumption session user.businessId p.order.id (some user.userId)
        (p.sale.items.map Inventory.lineSpec) db.now
    have hstocked : stocked.Yields db (rows.Extends Aside) :=
      (readOnly_stageWhen aside_neutral
        (Inventory.postSaleConsumption_stages aside_neutral fun _ =>
          aside_appendMovements)).yields
    obtain ⟨session', hrun⟩ : ∃ session', stocked.run db = (.ok session', db) := by
      unfold stocked Session.stageWhen
      split
      · exact postSaleConsumption_ok
      · exact ⟨_, rfl⟩
    obtain ⟨f, hf, hpending⟩ := (Ensures.elim hstocked hrun).2 session' rfl
    refine ensures_bind_run hrun (ensures_bind.mpr (ensures_tryCommit.mpr ⟨fun db' hw => ?_, fun e he => ?_⟩))
    · obtain ⟨htables, hnow⟩ := Database.write_ok hw
      have hplaces : Places p db'.toTables := by
        rw [htables, hpending]
        exact (places_insert h).beside (hf _)
      refine Ensures.mono (finishCheckout_places (Q := fun _ _ => True) checkoutKeeps_true hplaces
        trivial hnow) fun r db'' h => .inl ⟨h.2.2.2, fun i hi => ?_⟩
      rw [h.1.intents]
      exact consumed_lookup hi
    · obtain ⟨c, rfl, hc⟩ := Database.write_error he
      rw [hpending] at hc
      exact lands_refused (hsound.of_beside (hf _)) hc

theorem link_split_honoured_iff {sale : Sale} {order : Order}
    {intents : List POSPaymentLinkIntent} {now : Instant} (hfresh : Fresh orderId db)
    (hbody : body.payments = some payments) (hdistinct : (links payments).Nodup)
    (hadmitted : ((admission user orderId newCustomerId body).run db).1 =
      .ok (.admitted sale order intents now session)) :
    Honoured user orderId newCustomerId body sale order intents now session db ↔
      (links payments).length ≤ 1 := by
  obtain ⟨p, rfl, rfl, rfl, rfl, hconsuming, hdb⟩ := admitted_placed hadmitted
  have hsound := sound_saleRows_iff hconsuming hfresh hbody hdistinct
  refine ⟨fun h => hsound.mp h.unique, fun h => ⟨hsound.mpr h, ?_⟩⟩
  rw [createPosOrder_eq]
  exact ensures_bind_run (Prod.ext hadmitted hdb)
    (saveCheckout_lands hconsuming (hsound.mpr h))

def isAdmitted : Admission → Bool
  | .replayed _ => false
  | .admitted .. => true

theorem exists_admitted {r : Except Failure Admission} (h : r.toOption.any isAdmitted = true) :
    ∃ sale order intents now session, r = .ok (.admitted sale order intents now session) := by
  cases r with
  | error e => exact Bool.noConfusion h
  | ok admission =>
      cases admission with
      | replayed order => exact Bool.noConfusion h
      | admitted sale order intents now session => exact ⟨sale, order, intents, now, session, rfl⟩

theorem link_and_cash_honoured : ∃ sale order intents now session,
    ((admission SplitPayments.teller 4 8 (SplitPayments.twoBurgers SplitPayments.byLink
      SplitPayments.inCash)).run SplitPayments.linkCollectedShop).1 =
        .ok (.admitted sale order intents now session) ∧
    (Honoured SplitPayments.teller 4 8 (SplitPayments.twoBurgers SplitPayments.byLink
      SplitPayments.inCash) sale order intents now session SplitPayments.linkCollectedShop ↔
        (links [SplitPayments.byLink, SplitPayments.inCash]).length ≤ 1) := by
  obtain ⟨sale, order, intents, now, session, hadmitted⟩ := exists_admitted
    (r := ((admission SplitPayments.teller 4 8 (SplitPayments.twoBurgers SplitPayments.byLink
      SplitPayments.inCash)).run SplitPayments.linkCollectedShop).1) (by decide +kernel)
  exact ⟨sale, order, intents, now, session, hadmitted,
    link_split_honoured_iff ⟨by decide +kernel, by decide +kernel⟩ rfl (by decide +kernel)
      hadmitted⟩

def secondLink : POSPaymentLinkIntent := { SplitPayments.paidLink with id := 6 }

def twoLinksShop : Database :=
  { SplitPayments.linkCollectedShop with
    intents := [SplitPayments.paidLink, secondLink]
    valid := Tables.violation_eq_none.mp (by decide +kernel) }

def bySecondLink : POSPaymentAllocationRequest :=
  { SplitPayments.byLink with
    paymentIntentId := some 6
    linkNamed := fun _ => rfl
    linkScoped := fun h => absurd rfl h }

def twoLinks : POSOrderCreateRequest := SplitPayments.twoBurgers SplitPayments.byLink bySecondLink

theorem two_links_refused :
    (((createPosOrder SplitPayments.teller 4 8 twoLinks).run twoLinksShop).1 =
      .error (.integrity .uqIntentsOrderId)) ∧
    ¬ ∀ (user : AuthUser) (orderId newCustomerId : Uuid) (body : POSOrderCreateRequest)
      (payments : List POSPaymentAllocationRequest) (db : Database) (sale : Sale) (order : Order)
      (intents : List POSPaymentLinkIntent) (now : Instant) (session : Session),
      Fresh orderId db → body.payments = some payments → (links payments).Nodup →
      ((admission user orderId newCustomerId body).run db).1 =
        .ok (.admitted sale order intents now session) →
      Honoured user orderId newCustomerId body sale order intents now session db := by
  refine ⟨by decide +kernel, fun h => ?_⟩
  obtain ⟨sale, order, intents, now, session, hadmitted⟩ := exists_admitted
    (r := ((admission SplitPayments.teller 4 8 twoLinks).run twoLinksShop).1) (by decide +kernel)
  have hfresh : Fresh 4 twoLinksShop := ⟨by decide +kernel, by decide +kernel⟩
  have hdistinct : (links [SplitPayments.byLink, bySecondLink]).Nodup := by decide +kernel
  have hhonoured := h SplitPayments.teller 4 8 twoLinks _ twoLinksShop sale order intents now
    session hfresh rfl hdistinct hadmitted
  obtain ⟨p, rfl, rfl, rfl, rfl, hconsuming, -⟩ := admitted_placed hadmitted
  have hlength := (sound_saleRows_iff hconsuming hfresh rfl hdistinct).mp hhonoured.unique
  exact absurd hlength (by decide +kernel)

end NextgenBackend.LinkSplits
