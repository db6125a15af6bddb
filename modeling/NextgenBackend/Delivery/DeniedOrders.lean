import NextgenBackend.Delivery.SingleOrder

namespace NextgenBackend.DeniedOrders

open Txn RelyGuarantee Interleaving Delivery SingleOrder

def hasNoLiveOrder (row : DeliveryOrder) (t : Tables) : Prop :=
  ∀ orderId ∈ row.orderId, isUnwound orderId t

def DeniedOrdersDead (db : Database) : Prop :=
  ∀ id row, rowOf id db = some row → row.status = .denied → hasNoLiveOrder row db.toTables

-- The rows that a denial is about to refuse.
def refused : CommitSite → List Uuid
  | .denyDeliveryOrder id => [id]
  | .deliveryAcceptDeadlineWatchdog ids => ids
  | _ => []

def Meets (site : CommitSite) (db : Database) : Prop :=
  ∀ id ∈ refused site, ∀ row ∈ rowOf id db, hasNoLiveOrder row db.toTables

instance (orderId : Uuid) (m : StockMovement) : Decidable (isSaleOf orderId m) :=
  inferInstanceAs (Decidable (_ ∧ _))

instance (m : StockMovement) (t : Tables) : Decidable (isReversed m t) :=
  inferInstanceAs (Decidable (∃ reversal ∈ t.stockMovements, _))

instance (orderId : Uuid) (t : Tables) : Decidable (isUnwound orderId t) :=
  inferInstanceAs (Decidable ((∃ o ∈ t.orders.lookup orderId, o.status = .cancelled) ∧
    ∀ m ∈ t.stockMovements, isSaleOf orderId m → isReversed m t))

instance (row : DeliveryOrder) (t : Tables) : Decidable (hasNoLiveOrder row t) :=
  inferInstanceAs (Decidable (∀ orderId ∈ row.orderId, isUnwound orderId t))

instance (site : CommitSite) (db : Database) : Decidable (Meets site db) :=
  inferInstanceAs (Decidable (∀ id ∈ refused site, ∀ row ∈ rowOf id db, _))

structure Refusing (db : Database) : Prop where
  rows : ∀ id row, rowOf id db = some row → isSettled row
  denied : DeniedOrdersDead db

section Steps

variable {db db' : Database} {site : CommitSite} {id orderId : Uuid} {row row' : DeliveryOrder}

theorem effect_orders (heffect : Effect site db db') {o : Order}
    (hlookup : db.orders.lookup orderId = some o) (hcancelled : o.status = .cancelled) :
    ∃ o', db'.orders.lookup orderId = some o' ∧ o'.status = .cancelled := by
  have hsame (horders : db'.orders = db.orders) :
      ∃ o', db'.orders.lookup orderId = some o' ∧ o'.status = .cancelled :=
    ⟨o, by rw [horders, hlookup], hcancelled⟩
  cases site with
  | ingestWebhook order => exact hsame heffect.2.orders
  | enqueueJob job => exact hsame (congrArg (·.orders) heffect)
  | enqueueAcceptedOrder id forced job => exact hsame (congrArg (·.orders) heffect.1)
  | finishJob jobId => exact hsame (congrArg (·.orders) heffect)
  | processDeliveryOrder id forced status booked =>
      cases booked with
      | none => exact hsame heffect.2.orders
      | some booked =>
          obtain ⟨order, -, hinsert⟩ := heffect.2.orders
          rw [hinsert]
          exact ⟨o, Table.lookup_insert_of_some hlookup, hcancelled⟩
  | processDeliveryCancellation id => exact heffect.2.orders orderId o hlookup hcancelled
  | acceptDeliveryOrder id forced => exact hsame heffect.2.orders
  | denyDeliveryOrder id => exact hsame heffect.2.orders
  | deliveryAcceptDeadlineWatchdog ids => exact hsame heffect.2.orders
  | _ => exact heffect.elim

-- An order that is there already is not the one a commit creates.
theorem booking_fresh (heffect : Effect site db db') {o : Order}
    (hlookup : db.orders.lookup orderId = some o) {b : Uuid × Uuid}
    (hbooking : booking site = some b) : b.2 ≠ orderId := by
  rintro rfl
  cases site with
  | processDeliveryOrder id forced status booked =>
      cases booked with
      | none => cases hbooking
      | some booked =>
          obtain rfl := Option.some.inj hbooking
          obtain ⟨order, hid, hinsert⟩ := heffect.2.orders
          have hpkey : (db.orders.insert order).PrimaryKey := hinsert ▸ db'.valid .ordersPkey
          have hnone : db.orders.lookup order.id = none := (Table.primaryKey_insert.mp hpkey).2
          rw [hid, hlookup] at hnone
          cases hnone
  | _ => cases hbooking

theorem effect_unwound (heffect : Effect site db db') (h : isUnwound orderId db.toTables) :
    isUnwound orderId db'.toTables := by
  obtain ⟨⟨o, hlookup, hcancelled⟩, hreversed⟩ := h
  obtain ⟨movements, happend, hall⟩ := heffect.sold
  constructor
  · exact effect_orders heffect hlookup hcancelled
  · intro m hm hsale
    rw [happend] at hm
    rcases List.mem_append.mp hm with hm | hm
    · obtain ⟨reversal, hmem, hmatches⟩ := hreversed m hm hsale
      exact ⟨reversal, happend ▸ List.mem_append_left _ hmem, hmatches⟩
    · obtain ⟨b, hbooking, hsource, -⟩ := hall m hm
      have hid : b.2 = orderId := Option.some.inj (hsource.symm.trans hsale.2)
      exact absurd hid (booking_fresh heffect hlookup hbooking)

theorem moved_denied (h : Moved id row row' site) (hsettled : isSettled row)
    (hrow : rowOf id db = some row) (hmeets : Meets site db)
    (hold : row.status = .denied → hasNoLiveOrder row db.toTables)
    (hdenied : row'.status = .denied) : hasNoLiveOrder row' db.toTables := by
  cases h with
  | kept _ h =>
      subst h
      exact hold hdenied
  | processed forced status booked h =>
      have hnone : row.orderId = none :=
        hsettled.order_eq_none (by simp [h.before, awaitingStatuses])
      intro orderId horder
      have hbooked := h.booked
      rw [h.order, hnone, Option.or_none] at horder
      rw [← h.after, hdenied, horder] at hbooked
      simp [bookedStatuses] at hbooked
  | withdrawn h =>
      rw [h.after] at hdenied
      cases hdenied
  | accepted forced h =>
      rw [h.after] at hdenied
      cases hdenied
  | denied h =>
      intro orderId horder
      exact hmeets id (by simp [refused]) row hrow orderId (h.order ▸ horder)
  | expired ids hid h =>
      intro orderId horder
      exact hmeets id hid row hrow orderId (h.order ▸ horder)

theorem Refusing.next (h : Refusing db) (hmeets : Meets site db) (heffect : Effect site db db') :
    Refusing db' := by
  constructor
  · exact rows_next h.rows heffect
  · intro id row' hrow' hdenied orderId horder
    rcases heffect.origin hrow' with ⟨-, order, -, hnew⟩ | ⟨row, hrow, -, hmoved⟩
    · obtain ⟨-, -, hnone, -⟩ := hnew
      cases hnone.symm.trans horder
    · have hdead : hasNoLiveOrder row' db.toTables :=
        moved_denied hmoved (h.rows id row hrow) hrow hmeets (h.denied id row hrow) hdenied
      exact effect_unwound heffect (hdead orderId horder)

theorem Refusing.environment (h : Refusing db) (henv : DeliveryEnvironment db db') :
    Refusing db' := by
  constructor
  · simpa only [henv.rowOf_eq] using h.rows
  · intro id row hrow hdenied orderId horder
    rw [henv.rowOf_eq] at hrow
    exact henv.unwound orderId (h.denied id row hrow hdenied orderId horder)

end Steps

def manager : AuthUser where
  userId := 9
  businessId := 1
  role := .manager

def closing : RoutesDelivery.DenyOrderRequest where
  reasonCode := "STORE_CLOSED"

-- The marketplace cannot be told that the order is accepted.
def unreachable : DeliveryProviderAdapter where
  fetchOrder _ _ := .fetched burger
  acceptOrder _ _ _ := .providerError
  denyOrder _ _ _ _ := .ok

end NextgenBackend.DeniedOrders
