import NextgenBackend.Orders.Snapshot
import NextgenBackend.Pos.Placement
import NextgenBackend.Pos.RefundShares

namespace NextgenBackend.Redemptions

open Txn RoutesPos Snapshots

section Checkout

variable {db : Database} {user : AuthUser} {orderId newCustomerId : Uuid}
  {body : POSOrderCreateRequest} {session : Session} {reward : LoyaltyReward}

-- The row that charges a redeemed reward, on top of the balance that the customer had.
structure Charge (businessId orderId : Uuid) (reward : LoyaltyReward) (t : Tables)
    (row : LoyaltyTransaction) : Prop where
  business : row.businessId = businessId
  order : row.orderId = some orderId
  key : row.idempotencyKey = some (.redeem orderId)
  redeems : row.transactionType = .redeem
  points : row.pointsDelta = -reward.pointsCost
  balance : ∀ customer, t.customers.lookup row.customerId = some customer →
    row.balanceAfter = customer.loyaltyPointsBalance - reward.pointsCost

inductive Charges (user : AuthUser) (orderId : Uuid) (body : POSOrderCreateRequest)
    (db : Database) (sale : Sale) : List LoyaltyTransaction → Prop
  | unredeemed (hnone : body.loyaltyRewardId = none) (hsale : sale.redeemed = none) :
      Charges user orderId body db sale []
  | redeemed {rewardId : Uuid} {reward : LoyaltyReward} {value : Cents}
      {redemption : Loyalty.CheckoutRedemption} {row : LoyaltyTransaction}
      (hreward : body.loyaltyRewardId = some rewardId)
      (hstored : db.loyaltyRewards.lookup rewardId = some reward)
      (hvalue : reward.valueCents = some value)
      (hsale : sale.redeemed = some ⟨reward.id, redemption⟩)
      (hdiscount : redemption.discountCents =
        min value (max 0 (subtotal sale.items - body.discountCents)))
      (hcost : redemption.pointsCost = reward.pointsCost)
      (hcustomer : sale.customerId = some row.customerId)
      (hrow : Charge user.businessId orderId reward db.toTables row) :
      Charges user orderId body db sale [row]

def Redeems (user : AuthUser) (orderId : Uuid) (body : POSOrderCreateRequest) (db : Database)
    (sale : Sale) (t : Tables) : Prop :=
  ∃ charged earned, Charges user orderId body db sale charged ∧
    (∀ row ∈ earned, Loyalty.Earning row) ∧
      t.loyaltyTransactions = db.loyaltyTransactions ++ charged ++ earned

-- Linking the customer adds at most a row to the customers.
def Links (db : Database) (session : Session) : Prop :=
  (session.pending db.toTables).loyaltyTransactions = db.loyaltyTransactions ∧
    ∀ customerId customer, db.customers.lookup customerId = some customer →
      (session.pending db.toTables).customers.lookup customerId = some customer

theorem linkCustomer_links :
    (linkCustomer user newCustomerId body).Yields db fun linked => Links db linked.2 := by
  have hunlinked : Links db {} := ⟨rfl, fun _ _ h => h⟩
  unfold linkCustomer
  split
  · exact yields_done hunlinked
  · refine yields_seq (S := fun _ => True) (yields_read trivial) fun program _ => ?_
    split
    · exact yields_done hunlinked
    · refine yields_seq (S := fun found => Links db found.2) ?_ fun found h => yields_done h
      refine yields_seq (S := fun _ => True) readOnly_found.yields fun normalized _ => ?_
      refine yields_seq (S := fun _ => True) readOnly_scalar.yields fun customer _ => ?_
      split
      · exact yields_done hunlinked
      · exact yields_done ⟨rfl, fun _ _ h => Table.lookup_insert_of_some h⟩

theorem redeemReward_yields {businessId customerId : Uuid} {program : LoyaltyProgram}
    {orderId : Option Uuid} :
    (Loyalty.redeemReward session businessId customerId reward program orderId).Yields db
      fun redeemed => ∃ customer set,
        (session.pending db.toTables).customers.lookup customerId = some customer ∧
          redeemed.2 = Loyalty.stagePoints session set
            (Loyalty.redeemRow businessId customer reward orderId) := by
  refine yields_seq readOnly_ensure.yields fun _ _ => ?_
  refine yields_seq readOnly_ensure.yields fun _ _ => ?_
  refine yields_seq lockCustomerForBalanceUpdate_yields fun customer hlocked => ?_
  refine yields_seq readOnly_ensure.yields fun _ _ => ?_
  refine yields_seq readOnly_ensure.yields fun _ _ => ?_
  exact yields_done ⟨customer, _, hlocked, rfl⟩

theorem redeemRewardForCheckout_yields {businessId customerId : Uuid} {program : LoyaltyProgram}
    {maxDiscountableCents : Cents} :
    (Loyalty.redeemRewardForCheckout session businessId customerId reward program orderId
      maxDiscountableCents).Yields db fun redeemed => ∃ value customer set,
        reward.valueCents = some value ∧
          redeemed.1.discountCents = min value (max 0 maxDiscountableCents) ∧
            redeemed.1.pointsCost = reward.pointsCost ∧
              (session.pending db.toTables).customers.lookup customerId = some customer ∧
                redeemed.2 = Loyalty.stagePoints session set
                  (Loyalty.redeemRow businessId customer reward (some orderId)) := by
  unfold Loyalty.redeemRewardForCheckout
  split
  next => exact yields_fail
  next value hvalue =>
    refine yields_seq redeemReward_yields ?_
    rintro ⟨_, _⟩ ⟨customer, set, hlocked, rfl⟩
    exact yields_done ⟨value, customer, set, hvalue, rfl, rfl, hlocked, rfl⟩

theorem redeemForSale_redeems {business : Business} {items : List Pos.ResolvedPOSItem}
    {linked : Option (LoyaltyProgram × Uuid)} (hlinked : Links db session) :
    (redeemForSale user orderId body (subtotal items) linked session).Yields db fun redeemed =>
      Redeems user orderId body db ⟨business, items, linked.map (·.2), redeemed.1⟩
        (redeemed.2.pending db.toTables) := by
  obtain ⟨hledger, hcustomers⟩ := hlinked
  unfold redeemForSale
  split
  next hnone =>
    exact yields_done ⟨[], [], .unredeemed hnone rfl, by simp, by simp [hledger]⟩
  next rewardId hreward =>
    split
    next => exact yields_fail
    next program customerId =>
      refine yields_seq (S := fun row => row = (db.loyaltyRewards.lookup rewardId).filter fun r =>
        r.businessId = user.businessId) (yields_read rfl) ?_
      rintro _ rfl
      refine yields_seq (yields_orFail fun reward h => h) fun reward hfound => ?_
      obtain ⟨hstored, -⟩ := Option.filter_eq_some_iff.mp hfound
      refine yields_seq redeemRewardForCheckout_yields ?_
      rintro ⟨redemption, _⟩ ⟨value, customer, set, hvalue, hdiscount, hcost, hlocked, rfl⟩
      have hid : customer.id = customerId := Table.lookup_key hlocked
      have hrow : Charge user.businessId orderId reward db.toTables
          (Loyalty.redeemRow user.businessId customer reward (some orderId)) := by
        refine ⟨rfl, rfl, rfl, rfl, rfl, fun held hheld => ?_⟩
        rw [show (Loyalty.redeemRow user.businessId customer reward (some orderId)).customerId =
          customerId from hid] at hheld
        obtain rfl := Option.some.inj (hlocked.symm.trans (hcustomers _ _ hheld))
        rfl
      refine yields_done ⟨[_], [], .redeemed hreward hstored hvalue rfl ?_ hcost ?_ hrow,
        by simp, ?_⟩
      · simpa using hdiscount
      · simp [Loyalty.redeemRow, hid]
      · simp [Loyalty.stagePoints, Session.stage, Loyalty.postPoints, hledger]

theorem prepareSale_redeems :
    (prepareSale user orderId newCustomerId body).Yields db fun prepared =>
      Redeems user orderId body db prepared.1 (prepared.2.pending db.toTables) := by
  refine yields_seq readOnly_priceItems.yields fun priced _ => ?_
  refine yields_seq linkCustomer_links fun linked hlinked => ?_
  exact yields_seq (redeemForSale_redeems hlinked) fun redeemed h => yields_done h

theorem redeems_keeps (sale : Sale) : CheckoutKeeps (Redeems user orderId body db sale) where
  consumeIntents _ _ _ _ h := h
  sequence _ _ _ h := h
  insertOrder _ _ h := h
  insertOrderRows _ _ _ _ h := h
  appendMovements _ _ h := h
  earn set row hrow t h := by
    obtain ⟨charged, earned, hcharged, hearned, hledger⟩ := h
    refine ⟨charged, earned ++ [row], hcharged, ?_, ?_⟩
    · intro earning hmem
      rcases List.mem_append.mp hmem with hmem | hmem
      · exact hearned earning hmem
      · obtain rfl := List.mem_singleton.mp hmem
        exact hrow
    · simp [Loyalty.postPoints, hledger]

theorem createPosOrder_redeems :
    (createPosOrder user orderId newCustomerId body).Ensures db
      (RingsWith (Redeems user orderId body db) user orderId body db) :=
  createPosOrder_rings_with redeems_keeps prepareSale_redeems

end Checkout

section Ledger

variable {t t' : Tables} {businessId orderId : Uuid} {rows : List LoyaltyTransaction}
  {charged : LoyaltyTransaction} {f : Pending} {request : Request}

-- No row of the ledger names the order, whose id is generated anew for each checkout.
def Unnamed (orderId : Uuid) (t : Tables) : Prop :=
  ∀ row ∈ t.loyaltyTransactions, row.orderId ≠ some orderId ∧
    row.idempotencyKey ≠ some (.redeemReversal orderId)

-- A row that neither redeems a reward on the order nor gives its points back.
def Unrelated (orderId : Uuid) (row : LoyaltyTransaction) : Prop :=
  (row.orderId ≠ some orderId ∨ row.transactionType ≠ .redeem) ∧
    row.idempotencyKey ≠ some (.redeemReversal orderId)

theorem unrelated_of_earning {row : LoyaltyTransaction} (h : Loyalty.Earning row) :
    Unrelated orderId row := by
  constructor
  · right
    simp [h.earns]
  · simp [h.unkeyed]

-- The rows of the ledger about one order's redemption.
structure Entries (businessId orderId : Uuid) (redeemed reversed : List LoyaltyTransaction)
    (t : Tables) : Prop where
  redeemed : redemptions businessId orderId t = redeemed
  reversed : redemptionReversals businessId orderId t = reversed

theorem redemptions_append (h : t'.loyaltyTransactions = t.loyaltyTransactions ++ rows) :
    redemptions businessId orderId t' = redemptions businessId orderId t ++
      rows.filter fun x =>
        x.businessId = businessId ∧ x.orderId = some orderId ∧ x.transactionType = .redeem := by
  simp [redemptions, h]

theorem redemptionReversals_append
    (h : t'.loyaltyTransactions = t.loyaltyTransactions ++ rows) :
    redemptionReversals businessId orderId t' = redemptionReversals businessId orderId t ++
      rows.filter fun x =>
        x.businessId = businessId ∧ x.idempotencyKey = some (.redeemReversal orderId) := by
  simp [redemptionReversals, h]

theorem entries_append {redeemed reversed : List LoyaltyTransaction}
    (hentries : Entries businessId orderId redeemed reversed t)
    (h : t'.loyaltyTransactions = t.loyaltyTransactions ++ rows)
    (hrows : ∀ row ∈ rows, Unrelated orderId row) :
    Entries businessId orderId redeemed reversed t' := by
  constructor
  · have hnone : rows.filter (fun x => x.businessId = businessId ∧ x.orderId = some orderId ∧
        x.transactionType = .redeem) = [] := by
      rw [List.filter_eq_nil_iff]
      intro row hrow
      have hunrelated := (hrows row hrow).1
      simp only [decide_eq_true_eq]
      rintro ⟨-, horder, hredeems⟩
      rcases hunrelated with h | h
      · exact h horder
      · exact h hredeems
    rw [redemptions_append h, hnone, List.append_nil, hentries.redeemed]
  · have hnone : rows.filter (fun x => x.businessId = businessId ∧
        x.idempotencyKey = some (.redeemReversal orderId)) = [] := by
      rw [List.filter_eq_nil_iff]
      intro row hrow
      simp [(hrows row hrow).2]
    rw [redemptionReversals_append h, hnone, List.append_nil, hentries.reversed]

theorem entries_start {user : AuthUser} {db : Database} {body : POSOrderCreateRequest}
    {sale : Sale} (hunnamed : Unnamed orderId db.toTables)
    (hcharges : Charges user orderId body db sale [charged]) {earned : List LoyaltyTransaction}
    (hearned : ∀ row ∈ earned, Loyalty.Earning row)
    (hledger : t.loyaltyTransactions = db.loyaltyTransactions ++ [charged] ++ earned) :
    Entries user.businessId orderId [charged] [] t := by
  have hrow : ∃ reward, Charge user.businessId orderId reward db.toTables charged := by
    cases hcharges with
    | redeemed _ _ _ _ _ _ _ hrow => exact ⟨_, hrow⟩
  obtain ⟨reward, hrow⟩ := hrow
  have hbefore : Entries user.businessId orderId [charged] []
      { db.toTables with loyaltyTransactions := db.loyaltyTransactions ++ [charged] } := by
    constructor
    · have hnone : redemptions user.businessId orderId db.toTables = [] := by
        rw [redemptions, List.filter_eq_nil_iff]
        intro row hmem
        simp [(hunnamed row hmem).1]
      rw [redemptions_append rfl, hnone]
      simp [hrow.business, hrow.order, hrow.redeems]
    · have hnone : redemptionReversals user.businessId orderId db.toTables = [] := by
        rw [redemptionReversals, List.filter_eq_nil_iff]
        intro row hmem
        simp [(hunnamed row hmem).2]
      rw [redemptionReversals_append rfl, hnone]
      simp [hrow.key]
  exact entries_append hbefore hledger fun row hmem => unrelated_of_earning (hearned row hmem)

theorem entries_postPoints {redeemed reversed : List LoyaltyTransaction}
    {set : Customer → Customer} {row : LoyaltyTransaction} (hrow : Unrelated orderId row) :
    Preserves (Entries businessId orderId redeemed reversed) (Loyalty.postPoints set row) :=
  fun _ h => entries_append h rfl fun posted hposted => by
    obtain rfl := List.mem_singleton.mp hposted
    exact hrow

theorem entries_same {redeemed reversed : List LoyaltyTransaction}
    (hledger : ∀ t, (f t).loyaltyTransactions = t.loyaltyTransactions) :
    Preserves (Entries businessId orderId redeemed reversed) f :=
  fun t h => entries_append h (by simp [hledger]) (by simp : ∀ row ∈ [], Unrelated orderId row)

-- The requests that may charge the points of a reward on an order, or give them back.
inductive Redeeming : Request → Prop
  | checkout {user orderId newCustomerId body} :
      Redeeming (.createPosOrder user orderId newCustomerId body)
  | refund {user orderId body} : Redeeming (.refundPosOrder user orderId body)
  | void {user orderId reason} : Redeeming (.voidPosOrder user orderId reason)

theorem entries_stages {redeemed reversed : List LoyaltyTransaction}
    (hrequest : ¬ Redeeming request) (h : Stages request f) :
    Preserves (Entries businessId orderId redeemed reversed) f := by
  cases h with
  | payAward _ hrow | recordAward hrow => exact entries_postPoints (unrelated_of_earning hrow)
  | redeemReward _ horder hkey =>
      exact entries_postPoints ⟨.inl (by simp [horder]), by simp [hkey]⟩
  | adjustPoints hadjusts _ hkey =>
      exact entries_postPoints ⟨.inr (by simp [hadjusts]), hkey orderId⟩
  | restorePoints | restoreVoidedPoints | redeem | saleAward =>
      exact absurd (by constructor) hrequest
  | _ => exact entries_same fun _ => rfl

end Ledger

section Runs

variable {db db' : Database} {event : Event} {businessId orderId id : Uuid} {recorded : Snapshot}
  {charged : LoyaltyTransaction} {user : AuthUser} {steps : List (Event × Database)}

-- The order whose redeemed points an accepted reversal is to give back.
def restoredOrder (s : Database) : Event → Option Uuid
  | .served (.voidPosOrder _ orderId _) (.ok _) => some orderId
  | .served (.refundPosOrder _ orderId body) (.ok _) =>
      (s.orders.lookup orderId).bind fun o =>
        if body.amountCents.getD o.totalCents = o.totalCents ∧ body.restoreLoyaltyPoints = true
        then some orderId else none
  | _ => none

theorem restoredOrder_environment {s : Database} : restoredOrder s .environment = none := rfl

theorem restoredOrder_checkout {s : Database} {body : POSOrderCreateRequest} {id : Uuid}
    {r : Except Failure Reply} :
    restoredOrder s (.served (.createPosOrder user orderId id body) r) = none := rfl

theorem restoredOrder_error {s : Database} {request : Request} {e : Failure} :
    restoredOrder s (.served request (.error e)) = none := by
  cases request <;> rfl

theorem restoredOrder_void {s : Database} {reason : String} {reply : Reply} :
    restoredOrder s (.served (.voidPosOrder user orderId reason) (.ok reply)) = some orderId := rfl

theorem restoredOrder_refund {s : Database} {body : POSRefundRequest} {reply : Reply} :
    restoredOrder s (.served (.refundPosOrder user orderId body) (.ok reply)) =
      (s.orders.lookup orderId).bind fun o =>
        if body.amountCents.getD o.totalCents = o.totalCents ∧ body.restoreLoyaltyPoints = true
        then some orderId else none := rfl

theorem restoredOrder_other {s : Database} {request : Request} {r : Except Failure Reply}
    (hrequest : ¬ Redeeming request) : restoredOrder s (.served request r) = none := by
  cases request with
  | refundPosOrder => exact absurd .refund hrequest
  | voidPosOrder => exact absurd .void hrequest
  | _ => rfl

-- One row gives the points back, and only the first such reversal writes it.
def PointsReturned (businessId orderId : Uuid) (charged : LoyaltyTransaction) (s s' : Database) :
    Prop :=
  ∃ back rows, redemptionReversals businessId orderId s'.toTables = [back] ∧
    GivesBack businessId orderId charged back ∧
      (rows = if redemptionReversals businessId orderId s.toTables = [] then [back] else []) ∧
        s'.loyaltyTransactions = s.loyaltyTransactions ++ rows ∧
          Credits rows s.toTables s'.toTables

def ReturnLaw (businessId orderId : Uuid) (charged : LoyaltyTransaction) (s : Database)
    (event : Event) (s' : Database) : Prop :=
  if restoredOrder s event = some orderId then PointsReturned businessId orderId charged s s'
  else redemptionReversals businessId orderId s'.toTables =
    redemptionReversals businessId orderId s.toTables

structure Held (businessId orderId : Uuid) (recorded : Snapshot) (charged : LoyaltyTransaction)
    (t : Tables) : Prop where
  order : Recorded orderId recorded t
  redeemed : redemptions businessId orderId t = [charged]
  reversed : redemptionReversals businessId orderId t = [] ∨
    ∃ back, redemptionReversals businessId orderId t = [back] ∧
      GivesBack businessId orderId charged back

theorem held_append {rows : List LoyaltyTransaction}
    (hheld : Held businessId orderId recorded charged db.toTables)
    (horder : Recorded orderId recorded db'.toTables)
    (hledger : db'.loyaltyTransactions = db.loyaltyTransactions ++ rows)
    (hrows : ∀ row ∈ rows, Unrelated orderId row) (hnot : restoredOrder db event ≠ some orderId) :
    Held businessId orderId recorded charged db'.toTables ∧
      ReturnLaw businessId orderId charged db event db' := by
  have hentries := entries_append ⟨hheld.redeemed, rfl⟩ hledger hrows
  constructor
  · refine ⟨horder, hentries.redeemed, ?_⟩
    rw [hentries.reversed]
    exact hheld.reversed
  · rw [ReturnLaw, if_neg hnot]
    exact hentries.reversed

theorem restores_unrelated {p : Prop} {t : Tables} {rows : List LoyaltyTransaction}
    (h : RestoresIf p businessId id t rows) (hne : id ≠ orderId) :
    ∀ row ∈ rows, Unrelated orderId row := by
  by_cases hp : p
  · cases h.1 hp with
    | unredeemed | restored => simp
    | @gives original row _ _ hrow =>
        intro posted hposted
        obtain rfl := List.mem_singleton.mp hposted
        exact ⟨.inl (by simp [hrow.order, hne]), by simp [hrow.key, hne]⟩
  · simp [h.2 hp]

theorem returned_of_restores {rows : List LoyaltyTransaction}
    (hheld : Held businessId orderId recorded charged db.toTables)
    (hrestores : Restores businessId orderId db.toTables rows)
    (hledger : db'.loyaltyTransactions = db.loyaltyTransactions ++ rows)
    (hcredits : Credits rows db.toTables db'.toTables) :
    redemptions businessId orderId db'.toTables = [charged] ∧
      PointsReturned businessId orderId charged db db' := by
  cases hrestores with
  | unredeemed h =>
      rw [hheld.redeemed] at h
      cases h
  | restored h =>
      obtain ⟨back, hback, hgives⟩ := hheld.reversed.resolve_left h
      have hentries := entries_append ⟨hheld.redeemed, hback⟩ hledger
        (by simp : ∀ row ∈ [], Unrelated orderId row)
      refine ⟨hentries.redeemed, back, [], hentries.reversed, hgives, ?_, hledger, hcredits⟩
      rw [if_neg h]
  | @gives original row hredeemed hfresh hrow =>
      obtain rfl : original = charged := by
        rw [hheld.redeemed] at hredeemed
        exact (List.cons.inj hredeemed).1.symm
      refine ⟨?_, row, [row], ?_, hrow, ?_, hledger, hcredits⟩
      · rw [redemptions_append hledger, hheld.redeemed]
        simp [hrow.adjusts]
      · rw [redemptionReversals_append hledger, hfresh]
        simp [hrow.business, hrow.key]
      · rw [if_pos hfresh]

theorem held_reversal {o : Order} {set : Order → Order} {restores : Prop}
    (hheld : Held businessId orderId recorded charged db.toTables)
    (hbusiness : recorded.businessId = businessId)
    (horder : Recorded orderId recorded db'.toTables)
    (hreversed : SaleReversed user id db o set restores db')
    (hrestores : restoredOrder db event = some orderId ↔ id = orderId ∧ restores) :
    Held businessId orderId recorded charged db'.toTables ∧
      ReturnLaw businessId orderId charged db event db' := by
  obtain ⟨rows, hrows, hledger, hcredits⟩ := hreversed.ledger
  by_cases hid : id = orderId
  · subst hid
    obtain rfl : user.businessId = businessId := by
      have hsnapshot : snapshot o = recorded := by
        have hrecorded := hheld.order
        rw [Recorded, snapshotOf, hreversed.order] at hrecorded
        exact Option.some.inj hrecorded
      rw [← hreversed.business, ← hbusiness, ← hsnapshot]
      rfl
    by_cases hgiven : restores
    · obtain ⟨hredeemed, back, posted, hback, hgives, hposted⟩ :=
        returned_of_restores hheld (hrows.1 hgiven) hledger hcredits
      refine ⟨⟨horder, hredeemed, .inr ⟨back, hback, hgives⟩⟩, ?_⟩
      rw [ReturnLaw, if_pos (hrestores.mpr ⟨rfl, hgiven⟩)]
      exact ⟨back, posted, hback, hgives, hposted⟩
    · obtain rfl := hrows.2 hgiven
      exact held_append hheld horder hledger (by simp) fun h => hgiven (hrestores.mp h).2
  · exact held_append hheld horder hledger (restores_unrelated hrows hid) fun h =>
      hid (hrestores.mp h).1

theorem held_same (hheld : Held businessId orderId recorded charged db.toTables)
    (hnot : restoredOrder db event ≠ some orderId) :
    Held businessId orderId recorded charged db.toTables ∧
      ReturnLaw businessId orderId charged db event db :=
  held_append hheld hheld.order (by simp : _ = db.loyaltyTransactions ++ []) (by simp) hnot

theorem rewarded_of_recorded {o : Order} (horder : Recorded orderId recorded db.toTables)
    (hreward : recorded.loyaltyRewardId.isSome = true) (ho : db.orders.lookup orderId = some o) :
    o.loyaltyRewardId.isSome = true := by
  rw [Recorded, snapshotOf, ho] at horder
  obtain rfl := Option.some.inj horder
  exact hreward

abbrev HeldAfter (businessId orderId : Uuid) (recorded : Snapshot) (charged : LoyaltyTransaction)
    (s : Database) (event : Event) (s' : Database) : Prop :=
  Held businessId orderId recorded charged s'.toTables ∧ ReturnLaw businessId orderId charged s event s'

theorem plain_held {request : Request} {r : Except Failure Reply}
    (hheld : Held businessId orderId recorded charged db.toTables)
    (hrequest : ¬ Redeeming request) (hnext : Next db (.served request r) db') :
    HeldAfter businessId orderId recorded charged db (.served request r) db' := by
  have hwrites : Writes (fun _ => True) (Preserves (Entries businessId orderId [charged]
      (redemptionReversals businessId orderId db.toTables))) (handle request) :=
    handle_writes preserves_neutral fun f hf => entries_stages hrequest hf
  have hentries := preserves_run hwrites ⟨hheld.redeemed, rfl⟩
  rw [show (handle request).run db = (r, db') from hnext] at hentries
  have hnot : restoredOrder db (.served request r) ≠ some orderId := by
    simp [restoredOrder_other hrequest]
  refine ⟨⟨recorded_next hnext hheld.order, hentries.redeemed, ?_⟩, ?_⟩
  · rw [hentries.reversed]
    exact hheld.reversed
  · rw [ReturnLaw, if_neg hnot]
    exact hentries.reversed

theorem checkout_held {newCustomerId : Uuid} {body : POSOrderCreateRequest}
    {r : Except Failure Reply} (hheld : Held businessId orderId recorded charged db.toTables)
    (hnext : Next db (.served (.createPosOrder user id newCustomerId body) r) db') :
    HeldAfter businessId orderId recorded charged db
      (.served (.createPosOrder user id newCustomerId body) r) db' := by
  have hnot : restoredOrder db (.served (.createPosOrder user id newCustomerId body) r) ≠
      some orderId := by simp [restoredOrder_checkout]
  obtain ⟨placed, hrings, -⟩ := reply_run createPosOrder_redeems hnext
  rcases hrings with rfl | ⟨p, hplaces, ⟨charges, earned, hcharges, hearned, hledger⟩, -⟩
  · exact held_same hheld hnot
  have hne : id ≠ orderId := by
    rintro rfl
    have hpk : db'.orders.PrimaryKey := db'.valid .ordersPkey
    rw [hplaces.orders] at hpk
    have hfree : db.orders.lookup id = none := (Table.primaryKey_insert.mp hpk).2
    have hstored := hheld.order
    rw [Recorded, snapshotOf, hfree] at hstored
    cases hstored
  rw [List.append_assoc] at hledger
  refine held_append hheld (recorded_next hnext hheld.order) hledger (fun row hrow => ?_) hnot
  rcases List.mem_append.mp hrow with hrow | hrow
  · cases hcharges with
    | unredeemed => cases hrow
    | redeemed _ _ _ _ _ _ _ hcharge =>
        obtain rfl := List.mem_singleton.mp hrow
        exact ⟨.inl (by simp [hcharge.order, hne]), by simp [hcharge.key]⟩
  · exact unrelated_of_earning (hearned row hrow)

theorem refund_held {body : POSRefundRequest} {r : Except Failure Reply}
    (hheld : Held businessId orderId recorded charged db.toTables)
    (hbusiness : recorded.businessId = businessId)
    (hreward : recorded.loyaltyRewardId.isSome = true)
    (hnext : Next db (.served (.refundPosOrder user id body) r) db') :
    HeldAfter businessId orderId recorded charged db
      (.served (.refundPosOrder user id body) r) db' := by
  obtain ⟨reply', hreverses, rfl⟩ := reply_run
    (refundPosOrder_reverses fun _ => readOnly_refundCash.yields) hnext
  rcases hreverses with ⟨e, rfl, rfl⟩ | ⟨o, set, restores, ⟨-, hrestores, -⟩, hreversed, rfl⟩
  · exact held_same hheld (by simp [Except.map, restoredOrder_error])
  · refine held_reversal hheld hbusiness (recorded_next hnext hheld.order) hreversed ?_
    have hlookup := hreversed.order
    simp only [Except.map, restoredOrder_refund, hlookup, Option.bind_some, hrestores,
      refundRestores]
    constructor
    · intro h
      split at h
      next hfull =>
        obtain rfl := Option.some.inj h
        exact ⟨rfl, hfull.1, hfull.2, rewarded_of_recorded hheld.order hreward hlookup⟩
      next => cases h
    · rintro ⟨rfl, hfull, hkept, -⟩
      rw [if_pos ⟨hfull, hkept⟩]

theorem void_held {reason : String} {r : Except Failure Reply}
    (hheld : Held businessId orderId recorded charged db.toTables)
    (hbusiness : recorded.businessId = businessId)
    (hreward : recorded.loyaltyRewardId.isSome = true)
    (hnext : Next db (.served (.voidPosOrder user id reason) r) db') :
    HeldAfter businessId orderId recorded charged db
      (.served (.voidPosOrder user id reason) r) db' := by
  obtain ⟨reply', hreverses, rfl⟩ := reply_run voidPosOrder_reverses hnext
  rcases hreverses with ⟨e, rfl, rfl⟩ | ⟨o, set, restores, ⟨hrestores, -⟩, hreversed, rfl⟩
  · exact held_same hheld (by simp [Except.map, restoredOrder_error])
  · refine held_reversal hheld hbusiness (recorded_next hnext hheld.order) hreversed ?_
    have hlookup := hreversed.order
    simp only [Except.map, restoredOrder_void, Option.some.injEq, hrestores]
    refine ⟨fun h => ?_, fun h => h.1⟩
    subst h
    exact ⟨rfl, rewarded_of_recorded hheld.order hreward hlookup⟩

theorem held_next (hheld : Held businessId orderId recorded charged db.toTables)
    (hbusiness : recorded.businessId = businessId)
    (hreward : recorded.loyaltyRewardId.isSome = true) (hnext : Next db event db') :
    HeldAfter businessId orderId recorded charged db event db' := by
  cases event with
  | environment =>
      have hledger : db'.loyaltyTransactions = db.loyaltyTransactions ++ [] := by
        simp [hnext.loyaltyTransactions]
      exact held_append hheld (recorded_next hnext hheld.order) hledger (by simp)
        (by simp [restoredOrder_environment])
  | served request r =>
      by_cases hrequest : Redeeming request
      · cases hrequest with
        | checkout => exact checkout_held hheld hnext
        | refund => exact refund_held hheld hbusiness hreward hnext
        | void => exact void_held hheld hbusiness hreward hnext
      · exact plain_held hheld hrequest hnext

-- A sale on which a reward was redeemed, as the checkout stored it.
structure RewardSale (user : AuthUser) (orderId rewardId : Uuid) (db : Database)
    (o : Order) (charged : LoyaltyTransaction) (db' : Database) : Prop where
  charge : ∃ reward, db.loyaltyRewards.lookup rewardId = some reward ∧
    Charge user.businessId orderId reward db.toTables charged ∧
      o.loyaltyPointsRedeemed = reward.pointsCost ∧
        ∃ value ∈ reward.valueCents, o.loyaltyDiscountCents =
          min value (max 0 (o.subtotalCents - o.discountCents))
  entries : Entries user.businessId orderId [charged] [] db'.toTables
  business : o.businessId = user.businessId
  rewarded : o.loyaltyRewardId.isSome = true
  total : 0 ≤ o.totalCents

theorem checkout_rewardSale {newCustomerId rewardId : Uuid} {body : POSOrderCreateRequest}
    {r : Except Failure Reply} {o : Order} (hreward : body.loyaltyRewardId = some rewardId)
    (hnew : db.orders.lookup orderId = none) (hunnamed : Unnamed orderId db.toTables)
    (hnext : Next db (.served (.createPosOrder user orderId newCustomerId body) r) db')
    (ho : db'.orders.lookup orderId = some o) :
    ∃ charged, RewardSale user orderId rewardId db o charged db' := by
  obtain ⟨placed, hrings, -⟩ := reply_run createPosOrder_redeems hnext
  rcases hrings with rfl | ⟨p, hplaces, ⟨charges, earned, hcharges, hearned, hledger⟩, -⟩
  · rw [hnew] at ho
    cases ho
  have hself : (db.orders.insert p.order).lookup orderId = some p.order :=
    Table.lookup_insert_self (r := p.order) hnew
  obtain rfl : o = p.order := by
    rw [hplaces.orders, hself] at ho
    exact (Option.some.inj ho).symm
  cases hcharges with
  | unredeemed hnone =>
      rw [hreward] at hnone
      cases hnone
  | @redeemed id reward value redemption row hbody hstored hvalue hsale hdiscount hcost hcustomer
      hrow =>
      obtain rfl : rewardId = id := Option.some.inj (hreward.symm.trans hbody)
      have hentries := entries_start hunnamed
        (.redeemed hbody hstored hvalue hsale hdiscount hcost hcustomer hrow) hearned hledger
      refine ⟨row, ⟨reward, hstored, hrow, ?_, value, hvalue, ?_⟩, hentries, rfl, ?_, ?_⟩
      · simp [Placement.order, newOrder, hsale, hcost]
      · simp [Placement.order, newOrder, Sale.loyaltyDiscountCents, hsale, hdiscount]
      · simp [Placement.order, newOrder, hsale]
      · exact RefundShares.totals_nonneg

theorem redemption_given_back_once {newCustomerId rewardId : Uuid} {body : POSOrderCreateRequest}
    {r : Except Failure Reply} {o : Order} (hreward : body.loyaltyRewardId = some rewardId)
    (hnew : db.orders.lookup orderId = none) (hunnamed : Unnamed orderId db.toTables)
    (hnext : Next db (.served (.createPosOrder user orderId newCustomerId body) r) db')
    (ho : db'.orders.lookup orderId = some o) (hrun : Run.Along Next db' steps) :
    ∃ charged, RewardSale user orderId rewardId db o charged db' ∧
      Run.Along (ReturnLaw user.businessId orderId charged) db' steps := by
  obtain ⟨charged, hsale⟩ := checkout_rewardSale hreward hnew hunnamed hnext ho
  have hheld : Held user.businessId orderId (snapshot o) charged db'.toTables :=
    ⟨by rw [Recorded, snapshotOf, ho]; rfl, hsale.entries.redeemed, .inl hsale.entries.reversed⟩
  refine ⟨charged, hsale, ?_⟩
  have hcarried := hrun.carrying
    (I := fun s => Held user.businessId orderId (snapshot o) charged s.toTables) hheld
    fun _ _ _ h hstep => (held_next h hsale.business hsale.rewarded hstep).1
  exact hcarried.mono fun _ _ _ h => (held_next h.2 hsale.business hsale.rewarded h.1).2

end Runs

def regular : Customer where
  id := 8
  businessId := 1
  waId := none
  displayName := some "Thandi"
  phoneNumber := some "+27821234567"
  loyaltyPointsBalance := 250

def freeCoffee : LoyaltyReward where
  id := 7
  businessId := 1
  name := "Free coffee"
  pointsCost := 100
  isActive := true
  valueCents := some 500

def toastie : MenuItem where
  id := 6
  businessId := 1
  name := "Toastie"
  priceCents := 3000
  optionGroups := []
  removableIngredients := []
  addOnIds := []
  isActive := true
  isDeleted := false
  requiresPreparation := false

def cafe : Database where
  businesses := [{ id := 1, loyaltyEnabled := true }]
  menuItems := [toastie]
  customers := [regular]
  tillSessions := [SplitPayments.morningTill]
  loyaltyPrograms := [{ RoutesLoyalty.defaultProgram 1 with isEnabled := true }]
  loyaltyRewards := [freeCoffee]
  now := 10
  valid := Tables.violation_eq_none.mp (by decide +kernel)

def redeemingSale : POSOrderCreateRequest where
  items := [⟨6, 1, [], [], [], none⟩]
  orderMode := .pickup
  tableNumber := none
  customerName := none
  customerPhone := some "082 123 4567"
  discountCents := 0
  discountReason := none
  loyaltyRewardId := some 7
  paymentMethod := some .card
  cashTenderedCents := none
  paymentReference := none
  payments := none
  idempotencyKey := some "sale-1"
  itemsNonempty := by simp
  quantities := by simp
  discountNonnegative := no_discount
  methodAccepted := by simp
  paymentsNonempty := by simp
  onePaymentShape := by simp
  cashTendered := by simp
  cashScoped := by simp
  redemptionKeyed := by decide

def rungUp : Except Failure Reply × Database :=
  (handle (.createPosOrder RefundShares.manager 4 5 redeemingSale)).run cafe

theorem rungUp_next : Next cafe
    (.served (.createPosOrder RefundShares.manager 4 5 redeemingSale) rungUp.1) rungUp.2 :=
  rfl

theorem rungUp_stored : ∃ o, rungUp.2.orders.lookup 4 = some o :=
  Option.isSome_iff_exists.mp (by decide +kernel)

theorem voided_coffee_given_back : ∃ o, rungUp.2.orders.lookup 4 = some o ∧
    ∃ charged, RewardSale RefundShares.manager 4 7 cafe o charged rungUp.2 ∧
      Run.Along (ReturnLaw 1 4 charged) rungUp.2
        (played rungUp.2 [.voidPosOrder RefundShares.manager 4 "wrong table"]) := by
  obtain ⟨o, ho⟩ := rungUp_stored
  have hreward : redeemingSale.loyaltyRewardId = some 7 := rfl
  refine ⟨o, ho, redemption_given_back_once hreward rfl ?_ rungUp_next ho along_played⟩
  simp [Unnamed, cafe]

-- Every full reversal, also one that declines to return the points.
def reversedOrder (s : Database) : Event → Option Uuid
  | .served (.voidPosOrder _ orderId _) (.ok _) => some orderId
  | .served (.refundPosOrder _ orderId body) (.ok _) =>
      (s.orders.lookup orderId).bind fun o =>
        if body.amountCents.getD o.totalCents = o.totalCents then some orderId else none
  | _ => none

theorem whole_amount : ∀ amount ∈ (none : Option Cents), 1 ≤ amount := by simp

theorem no_cash : ∀ cash ∈ (none : Option Cents), 0 ≤ cash := by simp

def keepingPoints : POSRefundRequest where
  amountCents := none
  reason := none
  restoreStock := false
  restoreLoyaltyPoints := false
  cashRefundCents := none
  amountPositive := whole_amount
  cashNonnegative := no_cash

theorem declined_refund_keeps_points :
    ¬ ∀ (db db' : Database) (user : AuthUser) (orderId newCustomerId rewardId : Uuid)
        (body : POSOrderCreateRequest) (r : Except Failure Reply) (o : Order)
        (steps : List (Event × Database)),
      body.loyaltyRewardId = some rewardId → db.orders.lookup orderId = none →
      Unnamed orderId db.toTables →
      Next db (.served (.createPosOrder user orderId newCustomerId body) r) db' →
      db'.orders.lookup orderId = some o → Run.Along Next db' steps →
        ∃ charged, RewardSale user orderId rewardId db o charged db' ∧
          Run.Along (fun s event s' => reversedOrder s event = some orderId →
            PointsReturned user.businessId orderId charged s s') db' steps := by
  intro h
  obtain ⟨o, ho⟩ := rungUp_stored
  obtain ⟨charged, -, hlaw, -⟩ := h cafe rungUp.2 RefundShares.manager 4 5 7 redeemingSale rungUp.1
    o (played rungUp.2 [.refundPosOrder RefundShares.manager 4 keepingPoints]) rfl rfl
    (by simp [Unnamed, cafe]) rungUp_next ho along_played
  have hreversed : reversedOrder rungUp.2 (.served (.refundPosOrder RefundShares.manager 4
      keepingPoints) ((handle (.refundPosOrder RefundShares.manager 4 keepingPoints)).run
        rungUp.2).1) = some 4 := by decide +kernel
  obtain ⟨back, -, hback, -⟩ := hlaw hreversed
  have hnone : redemptionReversals 1 4 ((handle (.refundPosOrder RefundShares.manager 4
      keepingPoints)).run rungUp.2).2.toTables = [] := by decide +kernel
  rw [show RefundShares.manager.businessId = 1 from rfl] at hback
  exact absurd (hnone.symm.trans hback) (by simp)

end NextgenBackend.Redemptions
