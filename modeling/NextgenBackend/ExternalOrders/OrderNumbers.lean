import NextgenBackend.Delivery.OrderService
import NextgenBackend.ExternalOrders.Service

namespace NextgenBackend.ExternalOrders

-- An external order of one provider on its way into the orders of a business.
inductive Arrival (business : Business) (provider : String) where
  | imported (user : AuthUser) (platform : ExternalPlatform) (order : CanonicalExternalOrder)
      (now : Instant) (own : user.businessId = business.id) (named : platform.value = provider)
  | delivered (id : Uuid) (canonical : Delivery.CanonicalDeliveryOrder) (now : Instant)

variable {business : Business} {provider : String}

def Arrival.externalOrderId : Arrival business provider → String
  | imported _ _ order .. => order.externalOrderId
  | delivered _ canonical _ => canonical.externalOrderId

def Arrival.order : Arrival business provider → Order
  | imported user platform order now .. => importedOrder user business platform now order
  | delivered id canonical now => Delivery.orderFromCanonical id business provider canonical now

-- The characters of an external id that its order number has room for.
def room (provider : String) : Nat :=
  31 - (Delivery.orderIdPrefix provider).length

theorem orderIdPrefix_value (platform : ExternalPlatform) :
    orderIdPrefix platform = Delivery.orderIdPrefix platform.value := by
  cases platform <;> rfl

theorem length_orderIdPrefix_le (provider : String) :
    (Delivery.orderIdPrefix provider).length ≤ 3 := by
  unfold Delivery.orderIdPrefix
  split <;> decide

def orderNumber (provider externalOrderId : String) : String :=
  String.ofList ((Delivery.orderIdPrefix provider ++ "-" ++ externalOrderId).toList.take 32)

theorem orderNumber_eq (provider externalOrderId : String) :
    (orderNumber provider externalOrderId).toList =
      (Delivery.orderIdPrefix provider).toList ++
        '-' :: externalOrderId.toList.take (room provider) := by
  have hprefix : (Delivery.orderIdPrefix provider).toList.length ≤ 3 :=
    length_orderIdPrefix_le provider
  have hroom : 32 - (Delivery.orderIdPrefix provider).toList.length = room provider + 1 := by
    change _ = 31 - (Delivery.orderIdPrefix provider).toList.length + 1
    omega
  have hdash : "-".toList = ['-'] := rfl
  rw [orderNumber, String.toList_ofList, String.toList_append, String.toList_append, hdash,
    List.append_assoc, List.take_append, List.take_of_length_le (by omega), hroom]
  rfl

theorem Arrival.orderNumber_order (arrival : Arrival business provider) :
    arrival.order.orderNumber = orderNumber provider arrival.externalOrderId := by
  cases arrival with
  | imported user platform order now own named =>
      change (importedOrder user business platform now order).orderNumber =
        orderNumber provider order.externalOrderId
      simp only [importedOrder, orderNumber, orderIdPrefix_value, named]
  | delivered id canonical now => rfl

theorem Arrival.businessId_order (arrival : Arrival business provider) :
    arrival.order.businessId = business.id := by
  cases arrival with
  | imported user platform order now own named => exact own
  | delivered id canonical now => rfl

theorem order_numbers_unique_iff (business : Business) (provider : String)
    (arrivals : List (Arrival business provider)) :
    (Table.Unique (fun order : Order => some (order.businessId, order.orderNumber))
        (arrivals.map Arrival.order)) ↔
      (arrivals.map fun arrival => arrival.externalOrderId.toList.take (room provider)).Nodup := by
  have hsame (arrival arrival' : Arrival business provider) :
      (arrival.order.businessId, arrival.order.orderNumber) =
          (arrival'.order.businessId, arrival'.order.orderNumber) ↔
        arrival.externalOrderId.toList.take (room provider) =
          arrival'.externalOrderId.toList.take (room provider) := by
    rw [Prod.mk.injEq, arrival.businessId_order, arrival'.businessId_order,
      arrival.orderNumber_order, arrival'.orderNumber_order, ← String.toList_inj, orderNumber_eq,
      orderNumber_eq]
    simp
  rw [Table.Unique, List.filterMap_eq_map', List.map_map, List.Nodup, List.pairwise_map,
    List.Nodup, List.pairwise_map]
  simp only [Function.comp_apply, ne_eq, hsame]

def bistro : Business where
  id := 1

def reported (externalOrderId : String) : CanonicalExternalOrder where
  orderId := 1
  externalOrderId := externalOrderId
  placedAt := 0
  status := none
  grossCents := none
  lines := []

def longId (last : String) : String :=
  "8f14e45f-ceea-467f-a8f5-b4d3c7" ++ last

-- The report and the marketplace name two orders whose ids part behind the number's room.
theorem long_ids_share_a_number : ∃ arrivals : List (Arrival bistro "UBER_EATS"),
    (arrivals.map Arrival.externalOrderId).Nodup ∧
      ¬ Table.Unique (fun order : Order => some (order.businessId, order.orderNumber))
        (arrivals.map Arrival.order) :=
  ⟨[.imported ⟨1, 1, .owner⟩ .uberEats (reported (longId "1e21f1")) 0 rfl rfl,
      .delivered 2 { externalOrderId := longId "e9c2a4" } 0],
    by decide +kernel, by decide +kernel⟩

end NextgenBackend.ExternalOrders
