import NextgenBackend.Api.RoutesPos.Checkout
import NextgenBackend.Bot.StateMachine
import NextgenBackend.Inventory.Ledger

namespace NextgenBackend.Bot

open Txn RoutesPos

def orderCart (context : Context) : List CartItem :=
  if context.draft.cart = [] then context.draft.confirmedCart else context.draft.cart

def cartSubtotal (cart : List CartItem) : Cents :=
  (cart.map fun item => item.breakdown.lineTotalCents).sum

def orElse (text fallback : Option String) : Option String :=
  if (truthy text).isSome then text else fallback

def newOrder (orderId : Uuid) (business : Business) (customer : Customer) (context : Context)
    (status : OrderStatus) (sequence : Nat) (now : Instant) : Order where
  id := orderId
  businessId := business.id
  customerId := some customer.id
  orderNumber := formatOrderNumber sequence
  status := status
  paymentRequired := business.onlinePaymentRequired
  paymentStatus := if business.onlinePaymentRequired then .unpaid else .pending
  orderMode := context.draft.orderMode.getD .pickup
  source := .whatsapp
  subtotalCents := cartSubtotal (orderCart context)
  deliveryFeeCents := context.deliveryFeeCents.getD 0
  totalCents := cartSubtotal (orderCart context) + context.deliveryFeeCents.getD 0
  currency := business.currency
  customerName := orElse context.draft.customerName customer.displayName
  phoneNumber := orElse context.draft.phoneNumber customer.phoneNumber
  deliveryAddress := context.draft.deliveryAddress
  specialInstructions := truthy (context.draft.orderNotes.join)
  confirmedAt := some now
  createdAt := now

def cartOrderItem (order : Order) (item : CartItem) : OrderItem where
  orderId := order.id
  businessId := order.businessId
  menuItemId := some item.menuItemId
  nameSnapshot := item.name
  breakdown := item.breakdown
  selectedOptionsSnapshot := item.selectedOptions
  addOnsSnapshot := item.addOns
  removedIngredientsSnapshot := []
  specialInstructions := item.specialInstructions

def cartLineSpec (item : CartItem) : Inventory.LineItemSpec where
  menuItemId := item.menuItemId
  quantity := if item.breakdown.quantity = 0 then 1 else item.breakdown.quantity
  selectedOptionIds := (Inventory.selectedOptionIds item.selectedOptions).map (·.2)
  addOnSelections := item.addOns.map fun a =>
    ⟨a.addOnId, if a.quantity = 0 then 1 else a.quantity⟩
  removedRefIds := []

def creationEvent (order : Order) : OrderEvent where
  orderId := order.id
  businessId := order.businessId
  oldStatus := none
  newStatus := order.status
  changedByUserId := none
  reason := some (if order.status = .new then "Order placed via WhatsApp"
    else "Awaiting delivery fee approval")

def createOrderFromCart (session : Session) (orderId : Uuid) (business : Business)
    (customer : Customer) (context : Context) (status : OrderStatus) : Handler Session := do
  let cart := orderCart context
  if cart = [] then .fail .unhandled else do
    let (sequence, _, session) ← nextOrderNumber business.id session
    let now ← readNow
    let order := newOrder orderId business customer context status sequence now
    let session := session.stage [] (insertOrder order)
    let session := session.stage []
      (insertOrderRows (cart.map (cartOrderItem order)) (creationEvent order) [])
    session.stageWhen business.inventoryEnabled fun session =>
      Inventory.postSaleConsumption session business.id orderId none (cart.map cartLineSpec) now

end NextgenBackend.Bot
