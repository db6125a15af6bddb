import NextgenBackend.Api.Effects

namespace NextgenBackend.Snapshots

open Txn RoutesPos RoutesPayments

-- What an order records once of its price and of the reward redeemed on it.
structure Snapshot where
  businessId : Uuid
  subtotalCents : Cents
  discountCents : Cents
  loyaltyDiscountCents : Cents
  deliveryFeeCents : Cents
  taxCents : Cents
  totalCents : Cents
  loyaltyRewardId : Option Uuid
  loyaltyPointsRedeemed : Int
  loyaltyRewardName : Option String
deriving DecidableEq, Repr

def snapshot (o : Order) : Snapshot where
  businessId := o.businessId
  subtotalCents := o.subtotalCents
  discountCents := o.discountCents
  loyaltyDiscountCents := o.loyaltyDiscountCents
  deliveryFeeCents := o.deliveryFeeCents
  taxCents := o.taxCents
  totalCents := o.totalCents
  loyaltyRewardId := o.loyaltyRewardId
  loyaltyPointsRedeemed := o.loyaltyPointsRedeemed
  loyaltyRewardName := o.loyaltyRewardName

def snapshotOf (orderId : Uuid) (t : Tables) : Option Snapshot :=
  (t.orders.lookup orderId).map snapshot

variable {orderId id : Uuid} {f : Pending} {db db' : Database} {event : Event} {request : Request}
  {recorded : Snapshot}

def Recorded (orderId : Uuid) (recorded : Snapshot) (t : Tables) : Prop :=
  snapshotOf orderId t = some recorded

theorem recorded_same {t : Tables} (horders : (f t).orders = t.orders)
    (h : Recorded orderId recorded t) : Recorded orderId recorded (f t) := by
  rw [Recorded, snapshotOf, horders]
  exact h

theorem recorded_setOrder {set : Order → Order} (hkey : ∀ o, key (set o) = key o)
    (hset : ∀ o, snapshot (set o) = snapshot o) :
    Preserves (Recorded orderId recorded) (setOrder id set) := by
  intro t h
  have hlookup : (setOrder id set t).orders.lookup orderId =
      if orderId = id then (t.orders.lookup id).map set else t.orders.lookup orderId :=
    Table.lookup_modify hkey
  rw [Recorded, snapshotOf, hlookup]
  split
  next heq =>
    subst heq
    rw [Option.map_map, show snapshot ∘ set = snapshot from funext hset]
    exact h
  next => exact h

theorem recorded_insertOrder {order : Order} :
    Preserves (Recorded orderId recorded) (insertOrder order) := by
  intro t h
  obtain ⟨o, ho, hsnapshot⟩ := Option.map_eq_some_iff.mp h
  exact Option.map_eq_some_iff.mpr ⟨o, Table.lookup_insert_of_some ho, hsnapshot⟩

theorem recorded_stages (h : Stages request f) : Preserves (Recorded orderId recorded) f := by
  cases h with
  | payOrder | recordPayment | recordRefund | markRefunded | markVoided =>
      exact recorded_setOrder (fun _ => rfl) fun _ => rfl
  | insertOrder => exact recorded_insertOrder
  | _ => exact fun t => recorded_same rfl

theorem recorded_next (hnext : Next db event db') (h : Recorded orderId recorded db.toTables) :
    Recorded orderId recorded db'.toTables := by
  cases event with
  | environment =>
      rw [Recorded, snapshotOf, hnext.orders]
      exact h
  | served request r =>
      have hwrites : Writes (fun _ => True) (Preserves (Recorded orderId recorded))
          (handle request) := handle_writes preserves_neutral fun f hf => recorded_stages hf
      have hkept := preserves_run hwrites h
      rwa [show (handle request).run db = (r, db') from hnext] at hkept

end NextgenBackend.Snapshots
