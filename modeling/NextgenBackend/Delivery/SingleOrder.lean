import NextgenBackend.Delivery.Requests

namespace NextgenBackend.SingleOrder

open Txn RelyGuarantee Interleaving Delivery

def isOrderOf (order : DeliveryKey) (o : Order) : Prop :=
  o.businessId = order.businessId ∧ o.source = platformToOrderSource order.provider ∧
    o.externalOrderId = some order.externalOrderId

instance (order : DeliveryKey) (o : Order) : Decidable (isOrderOf order o) :=
  inferInstanceAs (Decidable (_ ∧ _))

def salesOf (businessId orderId ingredientId : Uuid) (t : Tables) : List StockMovement :=
  t.stockMovements.filter fun m =>
    m.businessId = businessId ∧ m.movementType = .saleConsumption ∧ m.sourceId = some orderId ∧
      m.ingredientId = ingredientId

def booked {ι : Type} (log : List (ι × CommitSite)) : List (Uuid × Uuid) :=
  log.filterMap fun entry => booking entry.2

def bookings {ι : Type} (order : DeliveryKey) (db : Database) (log : List (ι × CommitSite)) :
    List (Uuid × Uuid) :=
  (booked log).filter fun b => (rowOf b.1 db).any fun row => deliveryKey row = order

def awaitingStatuses : List DeliveryOrderStatus :=
  [.received, .needsMapping, .readyToAccept]

-- No delivery order that a job or an accept may still pick up has an order already.
def isSettled (row : DeliveryOrder) : Prop :=
  row.orderId.isSome → row.status ∉ awaitingStatuses

structure Settled (db : Database) : Prop where
  rows : ∀ id row, rowOf id db = some row → isSettled row
  sales : ∀ m ∈ db.stockMovements, isKeyed m

structure HasOneOrder {ι : Type} (order : DeliveryKey) (db : Database)
    (log : List (ι × CommitSite)) : Prop where
  rows : (db.deliveryOrders.filter fun row => deliveryKey row = order).length ≤ 1
  created : (bookings order db log).length ≤ 1
  attached : ∀ b ∈ bookings order db log, ∃ row ∈ db.deliveryOrders,
    deliveryKey row = order ∧ row.orderId = some b.2
  orders : (db.orders.filter (isOrderOf order)).length ≤ 1
  sales : ∀ orderId ingredientId,
    (salesOf order.businessId orderId ingredientId db.toTables).length ≤ 1

-- Each delivery order is booked once, and keeps the order that was booked for it.
structure Booked {ι : Type} (db : Database) (log : List (ι × CommitSite)) : Prop where
  settled : Settled db
  nodup : ((booked log).map Prod.fst).Nodup
  attached : ∀ b ∈ booked log, ∃ row, rowOf b.1 db = some row ∧ row.orderId = some b.2

section Steps

variable {ι : Type} {db db' : Database} {log : List (ι × CommitSite)} {i : ι} {site : CommitSite}
  {id : Uuid} {row row' : DeliveryOrder} {order : DeliveryKey}

-- A delivery order that still awaits its processing has no order.
theorem isSettled.order_eq_none (h : isSettled row) (hawaits : row.status ∈ awaitingStatuses) :
    row.orderId = none := by
  cases horder : row.orderId with
  | none => rfl
  | some orderId => exact absurd hawaits (h (by simp [horder]))

theorem moved_settled (h : Moved id row row' site) (hsettled : isSettled row) :
    isSettled row' := by
  intro hsome
  cases h with
  | kept _ h => exact h ▸ hsettled (h ▸ hsome)
  | processed forced status orderId h =>
      have hnone : row.orderId = none :=
        hsettled.order_eq_none (by simp [h.before, awaitingStatuses])
      rw [h.order, hnone, Option.or_none] at hsome
      have hbooked := h.booked
      rw [if_pos hsome] at hbooked
      rw [h.after]
      revert hbooked
      cases status <;> decide
  | withdrawn h =>
      rw [h.after]
      decide
  | accepted forced h =>
      have hbefore := hsettled (h.order ▸ hsome)
      rw [h.before] at hbefore
      cases forced <;> simp [awaitingStatuses] at hbefore
  | denied h =>
      rw [h.after]
      decide
  | expired ids hid h =>
      rw [h.after]
      decide

theorem moved_attached (h : Moved id row row' site) (hsettled : isSettled row) {orderId : Uuid}
    (hattached : row.orderId = some orderId) : row'.orderId = some orderId := by
  cases h with
  | kept _ h => exact h ▸ hattached
  | processed forced status orderId h =>
      have hnone : row.orderId = none :=
        hsettled.order_eq_none (by simp [h.before, awaitingStatuses])
      cases hnone.symm.trans hattached
  | withdrawn h => exact h.order.trans hattached
  | accepted forced h => exact h.order.trans hattached
  | denied h => exact h.order.trans hattached
  | expired ids hid h => exact h.order.trans hattached

theorem rows_next (h : ∀ id row, rowOf id db = some row → isSettled row)
    (heffect : Effect site db db') (id : Uuid) (row' : DeliveryOrder)
    (hrow' : rowOf id db' = some row') : isSettled row' := by
  rcases heffect.origin hrow' with ⟨-, order, -, hnew⟩ | ⟨row, hrow, -, hmoved⟩
  · obtain ⟨-, -, hnone, -⟩ := hnew
    simp [isSettled, hnone]
  · exact moved_settled hmoved (h id row hrow)

theorem Settled.next (h : Settled db) (heffect : Effect site db db') : Settled db' where
  rows := rows_next h.rows heffect
  sales m hm := by
    obtain ⟨movements, happend, hall⟩ := heffect.sold
    rw [happend] at hm
    rcases List.mem_append.mp hm with hm | hm
    · exact h.sales m hm
    · rintro orderId ⟨-, hsource⟩
      obtain ⟨b, -, hbooked, hkey⟩ := hall m hm
      obtain rfl := Option.some.inj (hbooked.symm.trans hsource)
      exact hkey

theorem effect_booking {b : Uuid × Uuid} (heffect : Effect site db db')
    (hbooking : booking site = some b) : ∃ row row', rowOf b.1 db = some row ∧
      row.status = .received ∧ rowOf b.1 db' = some row' ∧ row'.orderId = some b.2 := by
  cases site with
  | processDeliveryOrder id forced status orderId =>
      cases orderId with
      | none => cases hbooking
      | some orderId =>
          obtain rfl := Option.some.inj hbooking
          obtain ⟨row, row', hrow, hrow', -, hprocesses⟩ := heffect.1.row
          exact ⟨row, row', hrow, hprocesses.before, hrow', hprocesses.order⟩
  | _ => cases hbooking

theorem Booked.next (h : Booked db log) (heffect : Effect site db db') :
    Booked db' (log ++ [(i, site)]) := by
  have hkept (b : Uuid × Uuid) (hb : b ∈ booked log) :
      ∃ row, rowOf b.1 db' = some row ∧ row.orderId = some b.2 := by
    obtain ⟨row, hrow, horder⟩ := h.attached b hb
    obtain ⟨row', hrow', -, hmoves⟩ := heffect.old hrow
    exact ⟨row', hrow', moved_attached hmoves.moved (h.settled.rows b.1 row hrow) horder⟩
  cases hbooking : booking site with
  | none =>
      have hlog : booked (log ++ [(i, site)]) = booked log := by
        simp [booked, hbooking]
      constructor
      · exact h.settled.next heffect
      · rw [hlog]
        exact h.nodup
      · rw [hlog]
        exact hkept
  | some b =>
      have hlog : booked (log ++ [(i, site)]) = booked log ++ [b] := by
        simp [booked, hbooking]
      obtain ⟨row, row', hrow, hreceived, hrow', horder⟩ := effect_booking heffect hbooking
      have hnew : b.1 ∉ (booked log).map Prod.fst := by
        intro hmem
        obtain ⟨b', hb', hid⟩ := List.mem_map.mp hmem
        obtain ⟨row₁, hrow₁, horder₁⟩ := h.attached b' hb'
        obtain rfl : row₁ = row := by
          rw [hid, hrow] at hrow₁
          exact (Option.some.inj hrow₁).symm
        have hsettled := h.settled.rows b.1 row₁ hrow
        simp [isSettled, horder₁, hreceived, awaitingStatuses] at hsettled
      constructor
      · exact h.settled.next heffect
      · rw [hlog, List.map_append]
        exact h.nodup.append (List.nodup_singleton _) (by simpa using hnew)
      · intro b' hb'
        rw [hlog] at hb'
        rcases List.mem_append.mp hb' with hb' | hb'
        · exact hkept b' hb'
        · obtain rfl := List.mem_singleton.mp hb'
          exact ⟨row', hrow', horder⟩

theorem Booked.environment (h : Booked db log) (henv : DeliveryEnvironment db db') :
    Booked db' log := by
  constructor
  · constructor
    · intro id row hrow
      rw [henv.rowOf_eq] at hrow
      exact h.settled.rows id row hrow
    · exact henv.sales h.settled.sales
  · exact h.nodup
  · simpa only [henv.rowOf_eq] using h.attached

theorem mem_rowOf (hrow : rowOf id db = some row) : row ∈ db.deliveryOrders ∧ row.id = id :=
  ⟨Table.lookup_mem hrow, Table.lookup_key hrow⟩

theorem row_eq {id' : Uuid} (hrow : rowOf id db = some row) (hrow' : rowOf id' db = some row')
    (hkey : deliveryKey row = deliveryKey row') : id = id' := by
  obtain ⟨hmem, hid⟩ := mem_rowOf hrow
  obtain ⟨hmem', hid'⟩ := mem_rowOf hrow'
  simp only [deliveryKey, DeliveryKey.mk.injEq] at hkey
  obtain ⟨hbusiness, hprovider, hexternal⟩ := hkey
  have hsame : row = row' := by
    apply (db.valid .uqDeliveryOrdersBusinessProviderExternalOrderId).eq_of_mem hmem hmem' rfl
    rw [hbusiness, hprovider, hexternal]
  rw [← hid, ← hid', hsame]

theorem mem_bookings {b : Uuid × Uuid} (hb : b ∈ bookings order db log) :
    b ∈ booked log ∧ ∃ row, rowOf b.1 db = some row ∧ deliveryKey row = order := by
  obtain ⟨hmem, hkey⟩ := List.mem_filter.mp hb
  obtain ⟨row, hrow, hkey⟩ := (Option.any_eq_true _ _).mp hkey
  exact ⟨hmem, row, hrow, of_decide_eq_true hkey⟩

theorem Booked.created (h : Booked db log) : (bookings order db log).length ≤ 1 := by
  cases hbookings : bookings order db log with
  | nil => simp
  | cons b rest =>
      obtain ⟨-, row, hrow, hkey⟩ := mem_bookings (hbookings ▸ List.mem_cons_self)
      have hunique : Table.Unique (fun b => some b.1) (booked log) := by
        simpa only [Table.Unique, List.filterMap_eq_map'] using h.nodup
      rw [← hbookings]
      apply hunique.length_le_one List.filter_sublist (b := b.1)
      intro b' hb'
      obtain ⟨-, row', hrow', hkey'⟩ := mem_bookings hb'
      rw [row_eq hrow' hrow (hkey'.trans hkey.symm)]

theorem sales_once (h : Settled db) (businessId orderId ingredientId : Uuid) :
    (salesOf businessId orderId ingredientId db.toTables).length ≤ 1 := by
  apply (db.valid .uqStockMovementsBusinessIdIdempotencyKey).length_le_one List.filter_sublist
  intro m hm
  obtain ⟨hmem, hsale⟩ := List.mem_filter.mp hm
  obtain ⟨hbusiness, htype, hsource, hingredient⟩ := of_decide_eq_true hsale
  have hkey := h.sales m hmem orderId ⟨htype, hsource⟩
  simp only [hkey, hbusiness, hingredient, Option.map_some]
  rfl

theorem Booked.hasOneOrder (h : Booked db log) (order : DeliveryKey) :
    HasOneOrder order db log := by
  constructor
  · apply (db.valid .uqDeliveryOrdersBusinessProviderExternalOrderId).length_le_one
      (b := (order.businessId, order.provider, order.externalOrderId)) List.filter_sublist
    intro row hrow
    have hkey := of_decide_eq_true (List.mem_filter.mp hrow).2
    subst hkey
    rfl
  · exact h.created
  · intro b hb
    obtain ⟨hmem, row, hrow, hkey⟩ := mem_bookings hb
    obtain ⟨row', hrow', horder⟩ := h.attached b hmem
    obtain rfl := Option.some.inj (hrow.symm.trans hrow')
    exact ⟨row, (mem_rowOf hrow).1, hkey, horder⟩
  · apply (db.valid .uqOrdersBusinessSourceExternalId).length_le_one List.filter_sublist
    intro o ho
    obtain ⟨hbusiness, hsource, hexternal⟩ := of_decide_eq_true (List.mem_filter.mp ho).2
    simp only [hbusiness, hsource, hexternal, Option.map_some]
    rfl
  · exact sales_once h.settled order.businessId

end Steps

theorem one_order_per_delivery {ι : Type} [DecidableEq ι] {processes : ι → Process}
    {db₀ : Database} {c : DeliverySystem ι} (hstart : Settled db₀)
    (hreach : Reachable DeliveryEnvironment (fun _ _ => True) (launch db₀ processes) c)
    (order : DeliveryKey) : HasOneOrder order c.db c.log := by
  have hbooked : Booked c.db c.log := by
    apply delivery_reachable (p := fun _ _ _ => True) _ _ _ _ hreach
    · intro i site db db' log _ heffect hI
      exact hI.next heffect
    · intro db db' log henv hI
      exact hI.environment henv
    · intro c i _
      exact meets_of_forall (fun _ _ => trivial) c i
    · exact ⟨hstart, List.nodup_nil, by simp [booked]⟩
  exact hbooked.hasOneOrder order

def recipe : Recipe where
  id := 4
  businessId := 1
  menuItemId := some 3
  menuAddOnId := none
  isActive := true
  yieldQty := 1
  yieldPositive := Nat.one_pos
  items :=
    [{ ingredientId := 5, quantityMilli := 200, optionId := none, removableRefId := none, sortOrder := 0 }]

def kitchen : Database where
  businesses :=
    [{ id := 1
       inventoryEnabled := true
       deliveryPlatformsEnabled := true
       uberEatsEnabled := true }]
  menuItems :=
    [{ id := 3
       businessId := 1
       name := "Burger"
       priceCents := 9000
       optionGroups := []
       removableIngredients := []
       addOnIds := []
       isActive := true
       isDeleted := false
       requiresPreparation := true }]
  recipes := [recipe]
  ingredients := [{ id := 5, businessId := 1, name := "Patty", canonicalUnit := .gram }]
  deliveryConnections :=
    [{ id := 2
       businessId := 1
       provider := "UBER_EATS"
       externalStoreId := some "store-1"
       status := .connected
       autoAcceptEnabled := true }]
  now := 100
  valid := Tables.violation_eq_none.mp (by decide +kernel)

def burger : CanonicalDeliveryOrder where
  externalOrderId := "E-1"
  lines := [{ externalItemId := none, title := "Burger", quantity := 1 }]
  totalCents := some 9000

def marketplace : DeliveryProviderAdapter where
  fetchOrder _ _ := .fetched burger
  acceptOrder _ _ _ := .ok
  denyOrder _ _ _ _ := .ok

def settings : DeliverySettings where
  uberEatsWebhookEnabled := true

def notification (eventId : String) (orderRowId : Uuid) : DeliveryWebhook where
  provider := "UBER_EATS"
  signatureValid := true
  envelope := some ⟨eventId, some "orders.notification", some "store-1", some "E-1"⟩
  eventRowId := orderRowId + 1
  generatedEventId := "unused"
  orderRowId := orderRowId
  jobId := orderRowId + 2

-- One order announced twice, and both of its jobs worked at once.
def announcedTwice : Fin 4 → Process
  | 0 => { request := .webhook settings (notification "event-1" 10) }
  | 1 => { request := .webhook settings (notification "event-2" 20) }
  | 2 => { request := .work ⟨marketplace, 30⟩ 12 true }
  | 3 => { request := .work ⟨marketplace, 31⟩ 22 true }

def bothJobsAtOnce : List (Fin 4) :=
  List.replicate 10 0 ++ List.replicate 10 1 ++ [2, 3, 2, 3] ++ List.replicate 16 2 ++
    List.replicate 8 3

theorem settled_kitchen : Settled kitchen where
  rows id row hrow := by cases hrow
  sales m hm := by cases hm

theorem announced_twice_one_order :
    ∃ c ∈ (launch kitchen announcedTwice).schedule (fun _ _ => True) bothJobsAtOnce,
      c.db.orders.length = 1 ∧ c.db.stockMovements.length = 1 ∧ c.db.jobs = [] ∧
        HasOneOrder ⟨1, "UBER_EATS", "E-1"⟩ c.db c.log := by
  have hrun : ∃ c ∈ (launch kitchen announcedTwice).schedule (fun _ _ => True) bothJobsAtOnce,
      c.db.orders.length = 1 ∧ c.db.stockMovements.length = 1 ∧ c.db.jobs = [] := by
    decide +kernel
  obtain ⟨c, hc, horders, hmovements, hjobs⟩ := hrun
  exact ⟨c, hc, horders, hmovements, hjobs,
    one_order_per_delivery settled_kitchen (schedule_reachable hc) ⟨1, "UBER_EATS", "E-1"⟩⟩

end NextgenBackend.SingleOrder
