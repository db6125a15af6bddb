import NextgenBackend.Library.Decimal
import NextgenBackend.Orders.Commits
import NextgenBackend.Orders.PricingAgreement
import NextgenBackend.Orders.Snapshot
import NextgenBackend.Pos.Placement

namespace NextgenBackend.Receipts

open Txn RoutesPos Snapshots

def vatRateDisplay (order : Order) (business : Business) : Option Int × Option Bool :=
  if order.taxCents ≤ 0 then (none, none)
  else
    let rate := business.vatRateBasisPoints
    if rate ≤ 0 then (none, none)
    else
      let inclusive := business.vatInclusivePricing
      let netTotalCents := order.subtotalCents - order.discountCents -
        order.loyaltyDiscountCents + order.deliveryFeeCents
      let expected := Pricing.calculateVatCents netTotalCents rate inclusive
      if expected ≠ order.taxCents then (none, none) else (some rate, some inclusive)

structure ReceiptTotals where
  subtotalCents : Cents
  discountCents : Cents
  discountReason : Option String
  loyaltyDiscountCents : Cents
  loyaltyRewardName : Option String
  loyaltyPointsRedeemed : Int
  deliveryFeeCents : Cents
  vatCents : Cents
  vatRateBasisPoints : Option Int
  vatInclusive : Option Bool
  totalCents : Cents
deriving DecidableEq, Repr

def receiptTotals (order : Order) (business : Business) : ReceiptTotals where
  subtotalCents := order.subtotalCents
  discountCents := order.discountCents
  discountReason := order.discountReason
  loyaltyDiscountCents := order.loyaltyDiscountCents
  loyaltyRewardName := order.loyaltyRewardName
  loyaltyPointsRedeemed := order.loyaltyPointsRedeemed
  deliveryFeeCents := order.deliveryFeeCents
  vatCents := order.taxCents
  vatRateBasisPoints := (vatRateDisplay order business).1
  vatInclusive := (vatRateDisplay order business).2
  totalCents := order.totalCents

-- The division by a hundred rounds to the digits of the context; two decimals are printed.
def twoPlaces (hundredths : Nat) : String :=
  let n := ⌊100 * Decimal.div 28 hundredths 100⌋.toNat
  s!"{n / 100}." ++ (if n % 100 < 10 then "0" else "") ++ s!"{n % 100}"

def formatMoney (cents : Int) (currency : String) : String :=
  (if cents < 0 then "-" else "") ++ (if currency = "ZAR" then "R" else "") ++
    twoPlaces cents.natAbs

-- A rate in basis points, as a percentage with two decimals.
def percent (rateBasisPoints : Int) : String :=
  (if rateBasisPoints < 0 then "-" else "") ++ twoPlaces rateBasisPoints.natAbs

def labelled (rateBasisPoints : Int) (inclusive : Bool) : String :=
  "VAT @ " ++ percent rateBasisPoints ++ "%" ++ if inclusive then " (incl)" else ""

def vatLabel (totals : ReceiptTotals) : Option String :=
  if totals.vatCents = 0 then none
  else match totals.vatRateBasisPoints.filter (· ≠ 0) with
    | some rate => some (labelled rate (totals.vatInclusive.getD false))
    | none => some "VAT"

example : labelled 1550 true = "VAT @ 15.50% (incl)" := by decide +kernel

structure ReceiptLineModifier where
  label : String
  amountCents : Option Cents := none

structure ReceiptLine where
  quantity : Int
  name : String
  unitAmountCents : Cents := 0
  amountCents : Cents := 0
  modifiers : List ReceiptLineModifier := []
  note : Option String := none

structure ReceiptPaymentAllocation where
  method : String
  amountDisplay : String
  cashTenderedDisplay : Option String := none
  changeDueDisplay : Option String := none

structure ReceiptPayment where
  method : Option String := none
  cashTenderedCents : Option Cents := none
  changeDueCents : Option Cents := none
  refundAmountCents : Option Cents := none
  allocations : Option (List ReceiptPaymentAllocation) := none

structure ReceiptHeader where
  tradingName : String
  franchiseName : Option String := none
  branchName : Option String := none
  address : Option String := none
  phone : Option String := none
  vatNumber : Option String := none
  registrationNumber : Option String := none
  extraLines : List String := []

structure ReceiptMeta where
  orderNumber : String
  issuedAt : Option String := none
  cashierName : Option String := none
  orderType : Option String := none
  tableNumber : Option String := none
  customerName : Option String := none

structure ReceiptFooter where
  message : Option String := none
  qrData : Option String := none
  showVatInvoiceLabel : Bool := false

inductive DocumentType where
  | customerReceipt | kitchen
deriving DecidableEq

def columnsForWidth : List (Nat × Nat) := [(58, 32), (80, 48)]

structure ReceiptDocument where
  documentType : DocumentType := .customerReceipt
  columns : Nat := 48
  currency : String := "ZAR"
  header : ReceiptHeader
  orderMeta : ReceiptMeta
  lines : List ReceiptLine
  totals : ReceiptTotals
  payment : ReceiptPayment := {}
  footer : ReceiptFooter := {}
  banner : Option String := none

-- What the receipt computes the tax from.
def netTotal (o : Order) : Cents :=
  o.subtotalCents - o.discountCents - o.loyaltyDiscountCents + o.deliveryFeeCents

def vatSettings (b : Business) : Int × Bool :=
  (b.vatRateBasisPoints, b.vatInclusivePricing)

section Reconciliation

variable {o o' : Order} {b : Business} {rate net : Int} {inclusive : Bool}

-- The stored tax is what the rate makes of the stored amounts.
def Reconciles (o : Order) (rate : Int) (inclusive : Bool) : Prop :=
  0 < o.taxCents → o.taxCents = Pricing.calculateVatCents (netTotal o) rate inclusive

theorem calculateVatCents_of_nonpos (h : rate ≤ 0 ∨ net ≤ 0) :
    Pricing.calculateVatCents net rate inclusive = 0 := by
  simp [Pricing.calculateVatCents, h]

theorem rate_pos (hreconciles : Reconciles o rate inclusive) (htax : 0 < o.taxCents) :
    0 < rate := by
  by_contra hrate
  have hzero := hreconciles htax
  rw [calculateVatCents_of_nonpos (.inl (not_lt.mp hrate))] at hzero
  exact absurd htax (by rw [hzero]; decide)

theorem vatRateDisplay_of_reconciles
    (hreconciles : Reconciles o b.vatRateBasisPoints b.vatInclusivePricing)
    (htax : 0 < o.taxCents) :
    vatRateDisplay o b = (some b.vatRateBasisPoints, some b.vatInclusivePricing) := by
  have hrate := rate_pos hreconciles htax
  have hexpected := hreconciles htax
  unfold netTotal at hexpected
  simp [vatRateDisplay, not_le.mpr htax, not_le.mpr hrate, ← hexpected]

theorem vatLabel_of_reconciles
    (hreconciles : Reconciles o b.vatRateBasisPoints b.vatInclusivePricing)
    (htax : 0 < o.taxCents) :
    vatLabel (receiptTotals o b) = some (labelled b.vatRateBasisPoints b.vatInclusivePricing) := by
  have hrate := rate_pos hreconciles htax
  have hshown : (some b.vatRateBasisPoints).filter (· ≠ 0) = some b.vatRateBasisPoints := by
    simp [Option.filter, hrate.ne']
  simp only [vatLabel, receiptTotals, vatRateDisplay_of_reconciles hreconciles htax,
    if_neg htax.ne', hshown, Option.getD_some]

-- The clamped net total that the engine taxes is the receipt's own wherever tax is due.
theorem reconciles_of_totals {R : Bool}
    (htax : o.taxCents = (if R then
      Pricing.applyVatToTotal (max 0 (netTotal o)) rate inclusive else (max 0 (netTotal o), 0)).2) :
    Reconciles o rate inclusive := by
  intro hpos
  have hvat : o.taxCents = Pricing.calculateVatCents (max 0 (netTotal o)) rate inclusive := by
    cases R with
    | true =>
        rw [htax, if_pos rfl, Pricing.applyVatToTotal]
        split <;> rfl
    | false =>
        rw [htax] at hpos
        simp at hpos
  by_cases hnet : netTotal o ≤ 0
  · rw [max_eq_left hnet, calculateVatCents_of_nonpos (.inr (le_refl 0))] at hvat
    exact absurd hpos (by rw [hvat]; decide)
  · rwa [max_eq_right (not_le.mp hnet).le] at hvat

structure SamePrice (o o' : Order) : Prop where
  business : o'.businessId = o.businessId
  subtotal : o'.subtotalCents = o.subtotalCents
  discount : o'.discountCents = o.discountCents
  loyaltyDiscount : o'.loyaltyDiscountCents = o.loyaltyDiscountCents
  deliveryFee : o'.deliveryFeeCents = o.deliveryFeeCents
  tax : o'.taxCents = o.taxCents

theorem samePrice_of_snapshot (h : snapshot o' = snapshot o) : SamePrice o o' :=
  ⟨congrArg Snapshot.businessId h, congrArg Snapshot.subtotalCents h,
    congrArg Snapshot.discountCents h, congrArg Snapshot.loyaltyDiscountCents h,
    congrArg Snapshot.deliveryFeeCents h, congrArg Snapshot.taxCents h⟩

theorem SamePrice.reconciles (h : SamePrice o o') (hreconciles : Reconciles o rate inclusive) :
    Reconciles o' rate inclusive := by
  have hnet : netTotal o' = netTotal o := by
    simp only [netTotal, h.subtotal, h.discount, h.loyaltyDiscount, h.deliveryFee]
  unfold Reconciles
  rw [hnet, h.tax]
  exact hreconciles

end Reconciliation

section Pricing

variable {db : Database} {user : AuthUser} {orderId newCustomerId : Uuid}

theorem loadBusiness_yields {businessId : Uuid} :
    (loadBusiness businessId).Yields db fun b => db.businesses.lookup businessId = some b := by
  refine yields_seq (S := fun row => row = db.businesses.lookup businessId) (yields_read rfl) ?_
  rintro _ rfl
  exact yields_orFail fun b h => h

-- The till prices with the settings of its own business.
def Configured (user : AuthUser) (db : Database) (sale : Sale) (_ : Tables) : Prop :=
  db.businesses.lookup user.businessId = some sale.business

theorem prepareSale_configured {body : POSOrderCreateRequest} :
    (prepareSale user orderId newCustomerId body).Yields db fun prepared =>
      Configured user db prepared.1 (prepared.2.pending db.toTables) := by
  have hpriced : (priceItems user body).Yields db fun priced =>
      db.businesses.lookup user.businessId = some priced.1 := by
    refine yields_seq loadBusiness_yields fun business hbusiness => ?_
    refine yields_seq Pos.readOnly_raiseError.yields fun _ _ => ?_
    refine yields_seq Pos.readOnly_resolvePosItems.yields fun items _ => ?_
    exact yields_seq Pos.readOnly_raiseError.yields fun _ _ => yields_done hbusiness
  refine yields_seq hpriced fun priced hbusiness => ?_
  refine yields_seq (linkCustomer_stages aside_neutral fun _ _ _ => aside_insertCustomer).yields
    fun linked _ => ?_
  exact yields_seq (redeemForSale_stages aside_neutral fun _ _ _ _ => aside_postPoints).yields
    fun redeemed _ => yields_done hbusiness

theorem configured_keeps (sale : Sale) : CheckoutKeeps (Configured user db sale) :=
  ⟨fun _ _ _ _ h => h, fun _ _ _ h => h, fun _ _ h => h, fun _ _ _ _ h => h,
    fun _ _ h => h, fun _ _ _ _ h => h⟩

theorem placement_reconciles {body : POSOrderCreateRequest} (p : Placement user orderId body db) :
    Reconciles p.order p.sale.business.vatRateBasisPoints p.sale.business.vatInclusivePricing := by
  apply reconciles_of_totals (R := p.sale.business.vatRegistered)
  simp only [netTotal, Placement.order, newOrder, Sale.totals]
  cases p.sale.business.vatRegistered <;> rfl

-- A handler that stores one priced order, or else changes nothing.
def StoresPriced (businessId orderId : Uuid) (db : Database) (r : Except Failure Order)
    (db' : Database) : Prop :=
  (∃ e, r = .error e ∧ db' = db) ∨ ∃ o business, db.businesses.lookup businessId = some business ∧
    o.businessId = businessId ∧
      Reconciles o business.vatRateBasisPoints business.vatInclusivePricing ∧
        (∀ old ∈ db.orders.lookup orderId, old.businessId = businessId) ∧
          db'.orders.lookup orderId = some o ∧ r = .ok o ∧
            ∀ id, id ≠ orderId → db'.orders.lookup id = db.orders.lookup id

theorem storesPriced_error {businessId : Uuid} (e : Failure) :
    StoresPriced businessId orderId db (.error e) db :=
  .inl ⟨e, rfl, rfl⟩

theorem manualOrder_reconciles {body : RoutesOrders.OrderCreate} {business : Business}
    {rows : List RoutesOrders.ItemRow} {sequence : Nat} {now : Instant} :
    Reconciles (RoutesOrders.manualOrder user orderId body business rows sequence now)
      business.vatRateBasisPoints business.vatInclusivePricing := by
  apply reconciles_of_totals (R := business.vatRegistered)
  simp [netTotal, RoutesOrders.manualOrder, RoutesOrders.manualTotals]

theorem createOrder_stores {body : RoutesOrders.OrderCreate} :
    (RoutesOrders.createOrder user orderId body).Ensures db
      (StoresPriced user.businessId orderId db) := by
  refine ensures_seq readOnly_requireOwnerOrManager.yields (fun _ _ => ?_) storesPriced_error
  have hcatalog : (RoutesOrders.resolveCatalog user.businessId body.items).ReadOnly
      fun _ => True := by
    unfold RoutesOrders.resolveCatalog
    split
    · trivial
    · exact Pos.readOnly_resolvePosItems
  refine ensures_seq hcatalog.yields (fun resolved _ => ?_) storesPriced_error
  refine ensures_seq (R := fun row => row = db.businesses.lookup user.businessId)
    (yields_lock rfl) ?_ storesPriced_error
  rintro _ rfl
  refine ensures_seq (yields_orFail fun business h => h) (fun business hbusiness => ?_)
    storesPriced_error
  refine ensures_seq (R := fun now => now = db.now) (yields_read rfl) ?_ storesPriced_error
  rintro now rfl
  refine ensures_bind.mpr (commit_ensures (fun db' htables _ => ?_) storesPriced_error)
  generalize horder : RoutesOrders.manualOrder user orderId body business
    (RoutesOrders.itemRows body.notes body.items resolved) (business.orderNumberSequence + 1)
      db.now = order at htables
  have hid : key order = orderId := horder ▸ rfl
  have horders : db'.orders = db.orders.insert order := by rw [htables]; rfl
  have hfree : db.orders.lookup (key order) = none := by
    have hpk : db'.orders.PrimaryKey := db'.valid .ordersPkey
    rw [horders] at hpk
    exact (Table.primaryKey_insert.mp hpk).2
  have hstored : db'.orders.lookup orderId = some order := by
    rw [horders, ← hid]
    exact Table.lookup_insert_self hfree
  refine refreshOrder_ensures hstored (.inr ⟨order, business, hbusiness, horder ▸ rfl,
    horder ▸ manualOrder_reconciles, ?_, hstored, rfl, fun id hne => ?_⟩)
  · rw [← hid, hfree]
    simp
  · rw [horders]
    exact Table.lookup_insert_ne fun h => hne (h.symm.trans hid)

theorem recordDeliveryFee_reconciles {loaded : Order} {business : Business} {fee : Cents} :
    Reconciles (RoutesOrders.recordDeliveryFee loaded fee
        (RoutesOrders.deliveryTotals business loaded fee) loaded)
      business.vatRateBasisPoints business.vatInclusivePricing := by
  apply reconciles_of_totals (R := business.vatRegistered)
  simp only [netTotal, RoutesOrders.recordDeliveryFee, RoutesOrders.assign_self,
    RoutesOrders.deliveryTotals]

theorem setDeliveryFee_stores {body : RoutesOrders.DeliveryFeeRequest} :
    (RoutesOrders.setDeliveryFee user orderId body).Ensures db
      (StoresPriced user.businessId orderId db) := by
  refine ensures_seq readOnly_requireStaffOrAbove.yields (fun _ _ => ?_) storesPriced_error
  refine ensures_seq loadOrder_yields (fun loaded hloaded => ?_) storesPriced_error
  obtain ⟨hlookup, hbusinessId⟩ := hloaded
  refine ensures_seq readOnly_ensure.yields (fun _ _ => ?_) storesPriced_error
  refine ensures_seq loadBusiness_yields (fun business hbusiness => ?_) storesPriced_error
  dsimp only
  refine ensures_seq readOnly_lock.yields (fun _ _ => ?_) storesPriced_error
  refine ensures_seq Orders.askFeeApproval_quiet.yields (fun asked hasked => ?_)
    storesPriced_error
  obtain ⟨session, offer⟩ := asked
  obtain ⟨f, hquiet, hpending⟩ := hasked
  refine ensures_bind.mpr (commit_ensures (fun db' htables _ => ?_) storesPriced_error)
  generalize hset : RoutesOrders.recordDeliveryFee loaded body.deliveryFeeCents
    (RoutesOrders.deliveryTotals business loaded body.deliveryFeeCents) = set at hpending
  have hkey (o : Order) : key (set o) = key o := by rw [← hset]; rfl
  have horders : db'.orders = db.orders.modify orderId set := by
    dsimp only at hpending
    rw [htables, hpending]
    exact (hquiet _).1
  have hstored : db'.orders.lookup orderId = some (set loaded) := by
    rw [horders, Table.lookup_modify_self hkey, hlookup]
    rfl
  have hreconciles : Reconciles (set loaded) business.vatRateBasisPoints
      business.vatInclusivePricing := hset ▸ recordDeliveryFee_reconciles
  refine refreshOrder_ensures hstored (.inr ⟨set loaded, business, hbusiness, ?_, hreconciles, ?_,
    hstored, rfl, fun id hne => ?_⟩)
  · rw [← hset, ← hbusinessId]
    rfl
  · rw [hlookup]
    rintro old ⟨⟩
    exact hbusinessId
  · rw [horders]
    exact Table.lookup_modify_ne hkey hne

end Pricing

inductive Event where
  | api (event : NextgenBackend.Event)
  | createOrder (user : AuthUser) (orderId : Uuid) (body : RoutesOrders.OrderCreate)
      (reply : Except Failure Order)
  | setDeliveryFee (user : AuthUser) (orderId : Uuid) (body : RoutesOrders.DeliveryFeeRequest)
      (reply : Except Failure Order)
  | elsewhere

-- Elsewhere orders come and change, but none that exists is deleted or priced again.
def Next (db : Database) (event : Event) (db' : Database) : Prop :=
  match event with
  | .api event => NextgenBackend.Next db event db'
  | .createOrder user orderId body reply =>
      (RoutesOrders.createOrder user orderId body).run db = (reply, db')
  | .setDeliveryFee user orderId body reply =>
      (RoutesOrders.setDeliveryFee user orderId body).run db = (reply, db')
  | .elsewhere => ∀ orderId o, db.orders.lookup orderId = some o →
      ∃ o', db'.orders.lookup orderId = some o' ∧ SamePrice o o'

-- The step that priced the order: one that created it, or set its delivery fee.
def Prices (orderId : Uuid) (db : Database) (event : Event) (db' : Database) : Prop :=
  match event with
  | .api (.served (.createPosOrder _ id _ _) _) | .createOrder _ id _ _ =>
      id = orderId ∧ db.orders.lookup orderId = none ∧ (db'.orders.lookup orderId).isSome
  | .setDeliveryFee _ id _ (.ok _) => id = orderId
  | _ => False

def SameVat (businessId : Uuid) (db : Database) (_ : Event) (db' : Database) : Prop :=
  (db'.businesses.lookup businessId).map vatSettings =
    (db.businesses.lookup businessId).map vatSettings

section Runs

variable {db db' : Database} {event : Event} {businessId orderId : Uuid} {rate : Int}
  {inclusive : Bool} {steps : List (Event × Database)}

structure Priced (businessId orderId : Uuid) (rate : Int) (inclusive : Bool) (db : Database) :
    Prop where
  settings : (db.businesses.lookup businessId).map vatSettings = some (rate, inclusive)
  order : ∃ o, db.orders.lookup orderId = some o ∧ o.businessId = businessId ∧
    Reconciles o rate inclusive

theorem samePrice_next {event : NextgenBackend.Event} {o : Order}
    (hnext : NextgenBackend.Next db event db') (ho : db.orders.lookup orderId = some o) :
    ∃ o', db'.orders.lookup orderId = some o' ∧ SamePrice o o' := by
  have hrecorded : Recorded orderId (snapshot o) db.toTables := by
    rw [Recorded, snapshotOf, ho]
    rfl
  obtain ⟨o', ho', hsnapshot⟩ := Option.map_eq_some_iff.mp (recorded_next hnext hrecorded)
  exact ⟨o', ho', samePrice_of_snapshot hsnapshot⟩

theorem storesPriced_step {id : Uuid} {user : AuthUser} {r : Except Failure Order}
    (hpriced : Priced businessId orderId rate inclusive db)
    (hstores : StoresPriced user.businessId id db r db') :
    ∃ o, db'.orders.lookup orderId = some o ∧ o.businessId = businessId ∧
      Reconciles o rate inclusive := by
  obtain ⟨o, ho, hbusiness, hreconciles⟩ := hpriced.order
  rcases hstores with ⟨e, -, rfl⟩ |
    ⟨o', business, hstored, howner, hreconciles', hold, ho', -, hother⟩
  · exact ⟨o, ho, hbusiness, hreconciles⟩
  · by_cases hid : id = orderId
    · subst hid
      obtain rfl : businessId = user.businessId := hbusiness.symm.trans (hold o ho)
      have hsettings := hpriced.settings
      rw [hstored, Option.map_some, Option.some.injEq, vatSettings, Prod.mk.injEq] at hsettings
      rw [hsettings.1, hsettings.2] at hreconciles'
      exact ⟨o', ho', howner, hreconciles'⟩
    · exact ⟨o, (hother orderId (Ne.symm hid)).trans ho, hbusiness, hreconciles⟩

theorem priced_next (hpriced : Priced businessId orderId rate inclusive db)
    (hnext : Next db event db') (hsame : SameVat businessId db event db') :
    Priced businessId orderId rate inclusive db' := by
  refine ⟨hsame.trans hpriced.settings, ?_⟩
  obtain ⟨o, ho, hbusiness, hreconciles⟩ := hpriced.order
  cases event with
  | api event =>
      obtain ⟨o', ho', hprice⟩ := samePrice_next hnext ho
      exact ⟨o', ho', hprice.business.trans hbusiness, hprice.reconciles hreconciles⟩
  | createOrder user id body reply =>
      exact storesPriced_step hpriced (createOrder_stores.elim hnext)
  | setDeliveryFee user id body reply =>
      exact storesPriced_step hpriced (setDeliveryFee_stores.elim hnext)
  | elsewhere =>
      obtain ⟨o', ho', hprice⟩ := hnext orderId o ho
      exact ⟨o', ho', hprice.business.trans hbusiness, hprice.reconciles hreconciles⟩

theorem settings_of_stored {business : Business}
    (hstored : db.businesses.lookup businessId = some business)
    (hsame : SameVat businessId db event db') :
    (db'.businesses.lookup businessId).map vatSettings =
      some (business.vatRateBasisPoints, business.vatInclusivePricing) := by
  rw [hsame, hstored]
  rfl

theorem priced_of_stores {user : AuthUser} {r : Except Failure Order} {o : Order}
    (hstores : StoresPriced user.businessId orderId db r db')
    (hstored : ∀ e, r = .error e → db.orders.lookup orderId = none)
    (ho : db'.orders.lookup orderId = some o) (hsame : SameVat o.businessId db event db') :
    ∃ rate inclusive, Priced o.businessId orderId rate inclusive db' := by
  rcases hstores with ⟨e, rfl, rfl⟩ | ⟨o', business, hbusiness, howner, hreconciles, -, ho', -⟩
  · rw [hstored e rfl] at ho
    cases ho
  · obtain rfl : o = o' := Option.some.inj (ho.symm.trans ho')
    rw [← howner] at hbusiness
    exact ⟨_, _, settings_of_stored hbusiness hsame, o, ho, rfl, hreconciles⟩

theorem priced_of_prices {o : Order} (hnext : Next db event db')
    (hprices : Prices orderId db event db') (ho : db'.orders.lookup orderId = some o)
    (hsame : SameVat o.businessId db event db') :
    ∃ rate inclusive, Priced o.businessId orderId rate inclusive db' := by
  unfold Prices at hprices
  split at hprices
  next user id newCustomerId body reply =>
    obtain ⟨rfl, hnew, -⟩ := hprices
    obtain ⟨placed, hrings, -⟩ := reply_run (createPosOrder_rings_with configured_keeps
      prepareSale_configured) hnext
    rcases hrings with rfl | ⟨p, hplaces, hbusiness, -⟩
    · rw [hnew] at ho
      cases ho
    · have hself : (db.orders.insert p.order).lookup id = some p.order :=
        Table.lookup_insert_self (r := p.order) hnew
      rw [hplaces.orders, hself] at ho
      obtain rfl := Option.some.inj ho
      exact ⟨_, _, settings_of_stored hbusiness hsame, p.order, by rw [hplaces.orders, hself], rfl,
        placement_reconciles p⟩
  next user id body reply =>
    obtain ⟨rfl, hnew, -⟩ := hprices
    exact priced_of_stores (createOrder_stores.elim hnext) (fun _ _ => hnew) ho hsame
  next user id body reply =>
    subst hprices
    exact priced_of_stores (setDeliveryFee_stores.elim hnext) (by simp) ho hsame
  next => cases hprices

theorem receipt_prints_configured_rate {o o' : Order} {b : Business}
    (hnext : Next db event db') (hprices : Prices orderId db event db')
    (ho : db'.orders.lookup orderId = some o) (hrun : Run.Along Next db' steps)
    (hsame : Run.Along (SameVat o.businessId) db ((event, db') :: steps))
    (ho' : (Run.last db' steps).orders.lookup orderId = some o')
    (hb : (Run.last db' steps).businesses.lookup o'.businessId = some b)
    (htax : 0 < o'.taxCents) :
    vatRateDisplay o' b = (some b.vatRateBasisPoints, some b.vatInclusivePricing) ∧
      vatLabel (receiptTotals o' b) =
        some (labelled b.vatRateBasisPoints b.vatInclusivePricing) := by
  obtain ⟨rate, inclusive, hpriced⟩ := priced_of_prices hnext hprices ho hsame.1
  have hlast : Priced o.businessId orderId rate inclusive (Run.last db' steps) :=
    (hrun.and hsame.2).invariant hpriced fun s event s' h hstep =>
      priced_next h hstep.1 hstep.2
  obtain ⟨stored, hstored, hbusiness, hreconciles⟩ := hlast.order
  obtain rfl : o' = stored := Option.some.inj (ho'.symm.trans hstored)
  have hsettings := hlast.settings
  rw [← hbusiness, hb, Option.map_some, Option.some.injEq, vatSettings, Prod.mk.injEq] at hsettings
  rw [← hsettings.1, ← hsettings.2] at hreconciles
  exact ⟨vatRateDisplay_of_reconciles hreconciles htax, vatLabel_of_reconciles hreconciles htax⟩

end Runs

open PricingAgreement (vatCafe asManager byHand)

def feastItem : MenuItem where
  id := 3
  businessId := 1
  name := "Feast"
  priceCents := 5000
  optionGroups := []
  removableIngredients := []
  addOnIds := []
  isActive := true
  isDeleted := false
  requiresPreparation := true

def phoneIn : Database where
  businesses := [vatCafe true]
  menuItems := [feastItem]
  now := 10
  valid := Tables.violation_eq_none.mp (by decide +kernel)

def taken : Except Failure Order × Database :=
  (RoutesOrders.createOrder asManager 12 byHand).run phoneIn

def asPaid : RoutesOrders.PaymentUpdateRequest where
  paymentStatus := .paid
  paymentMethod := some .card
  paymentReference := none
  methodAccepted := by simp

def paid : Except Failure Reply × Database :=
  (handle (.updatePaymentStatus asManager 12 asPaid)).run taken.2

def afterwards : List (Event × Database) :=
  [(.api (.served (.updatePaymentStatus asManager 12 asPaid) paid.1), paid.2)]

theorem paid_order_prints_rate : ∃ o b, paid.2.orders.lookup 12 = some o ∧
    paid.2.businesses.lookup o.businessId = some b ∧
      vatRateDisplay o b = (some b.vatRateBasisPoints, some b.vatInclusivePricing) ∧
        vatLabel (receiptTotals o b) =
          some (labelled b.vatRateBasisPoints b.vatInclusivePricing) := by
  have hrun : ∃ o ∈ taken.2.orders.lookup 12, o.businessId = 1 ∧
      ∃ o' ∈ paid.2.orders.lookup 12, (paid.2.businesses.lookup o'.businessId).isSome ∧
        0 < o'.taxCents := by decide +kernel
  obtain ⟨o, ho, hbusiness, o', ho', hb, htax⟩ := hrun
  obtain ⟨b, hb⟩ := Option.isSome_iff_exists.mp hb
  have hprices : Prices 12 phoneIn (.createOrder asManager 12 byHand taken.1) taken.2 :=
    ⟨rfl, rfl, by rw [ho]; rfl⟩
  have hsame : Run.Along (SameVat o.businessId) phoneIn
      ((.createOrder asManager 12 byHand taken.1, taken.2) :: afterwards) := by
    rw [hbusiness]
    exact ⟨by unfold SameVat; decide +kernel, by unfold SameVat; decide +kernel, trivial⟩
  have hnext : Next phoneIn (.createOrder asManager 12 byHand taken.1) taken.2 := rfl
  have hlater : Run.Along Next taken.2 afterwards := ⟨rfl, trivial⟩
  exact ⟨o', b, ho', hb,
    receipt_prints_configured_rate hnext hprices ho hlater hsame ho' hb htax⟩

end NextgenBackend.Receipts
