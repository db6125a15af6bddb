import NextgenBackend.Library.RelyGuarantee
import NextgenBackend.Shared.Models

namespace NextgenBackend

structure Tables where
  businesses : Table Business := []
  menuCategories : Table MenuCategory := []
  menuItems : Table MenuItem := []
  menuAddOns : Table MenuAddOn := []
  recipes : Table Recipe := []
  ingredients : Table Ingredient := []
  customers : Table Customer := []
  tillSessions : Table TillSession := []
  orders : Table Order := []
  orderItems : List OrderItem := []
  orderEvents : List OrderEvent := []
  allocations : Table POSPaymentAllocation := []
  intents : Table POSPaymentLinkIntent := []
  loyaltyPrograms : Table LoyaltyProgram := []
  loyaltyRewards : Table LoyaltyReward := []
  loyaltyTransactions : List LoyaltyTransaction := []
  stockMovements : List StockMovement := []
  stocktakeSessions : Table StocktakeSession := []
  stocktakeLines : List StocktakeLine := []
  assets : Table Asset := []
  suppliers : Table Supplier := []
  wastageEntries : Table WastageEntry := []
  goodsReceipts : Table GoodsReceipt := []
  goodsReceiptLines : List GoodsReceiptLine := []
  conversationSessions : Table ConversationSession := []
  messages : List Message := []
  dailyUsage : Table DailyUsage := []
  billingInvoices : List BillingInvoice := []
  externalProductMappings : Table ExternalProductMapping := []
  deliveryConnections : Table DeliveryConnection := []
  deliveryWebhookEvents : Table DeliveryWebhookEvent := []
  deliveryOrders : Table DeliveryOrder := []

inductive Constraint where
  | businessesPkey
  | menuCategoriesPkey
  | menuItemsPkey
  | menuAddOnsPkey
  | recipesPkey
  | ckRecipesExactlyOneParent
  | assetsPkey
  | suppliersPkey
  | externalProductMappingsPkey
  | uqExternalProductMappingsBusinessPlatformKindKey
  | ingredientsPkey
  | customersPkey
  | uqCustomersBusinessWaId
  | ckCustomersLoyaltyPointsBalanceNonneg
  | tillSessionsPkey
  | uqTillSessionsOneOpenPerBusiness
  | ordersPkey
  | uqOrdersBusinessIdOrderNumber
  | uqOrdersBusinessIdempotencyKey
  | uqOrdersBusinessSourceExternalId
  | fkOrdersCustomerId
  | fkOrdersTillSessionId
  | intentsPkey
  | ckIntentsAmountPositive
  | ckIntentsProvider
  | ckIntentsConsumedHasOrder
  | uqIntentsOrderId
  | fkIntentsOrderId
  | allocationsPkey
  | fkAllocationsOrderId
  | ckAllocationsAmountPositive
  | ckAllocationsMethod
  | ckAllocationsCashFieldsScoped
  | ckAllocationsCashCoversAmount
  | ckAllocationsLinkFieldsScoped
  | uqLoyaltyProgramsBusinessId
  | fkLoyaltyTransactionsCustomerId
  | uqLoyaltyTransactionsBusinessIdIdempotencyKey
  | uqStockMovementsBusinessIdIdempotencyKey
  | stocktakeSessionsPkey
  | uqStocktakeLinesStocktakeSessionIdIngredientId
  | fkStocktakeLinesIngredientId
  | wastageEntriesPkey
  | goodsReceiptsPkey
  | uqGoodsReceiptsBusinessIdempotencyKey
  | uqConversationSessionsBusinessCustomer
  | uqMessagesWaMessageId
  | uqDailyUsageBusinessDay
  | uqBusinessesStripeCustomerId
  | uqBusinessesStripeSubscriptionId
  | deliveryConnectionsPkey
  | uqDeliveryConnectionsBusinessProvider
  | uqDeliveryConnectionsProviderExternalStoreId
  | deliveryWebhookEventsPkey
  | uqDeliveryWebhookEventsProviderEventId
  | deliveryOrdersPkey
  | uqDeliveryOrdersBusinessProviderExternalOrderId
  | uqDeliveryOrdersOrderId
deriving DecidableEq, Repr

namespace Constraint

def all : List Constraint :=
  [.businessesPkey, .menuCategoriesPkey, .menuItemsPkey, .menuAddOnsPkey, .recipesPkey,
    .ckRecipesExactlyOneParent, .assetsPkey, .suppliersPkey, .externalProductMappingsPkey,
    .uqExternalProductMappingsBusinessPlatformKindKey, .ingredientsPkey, .customersPkey, .uqCustomersBusinessWaId,
    .ckCustomersLoyaltyPointsBalanceNonneg, .tillSessionsPkey, .uqTillSessionsOneOpenPerBusiness,
    .ordersPkey, .uqOrdersBusinessIdOrderNumber, .uqOrdersBusinessIdempotencyKey,
    .uqOrdersBusinessSourceExternalId, .fkOrdersCustomerId, .fkOrdersTillSessionId, .intentsPkey, .ckIntentsAmountPositive,
    .ckIntentsProvider, .ckIntentsConsumedHasOrder, .uqIntentsOrderId, .fkIntentsOrderId,
    .allocationsPkey, .fkAllocationsOrderId, .ckAllocationsAmountPositive, .ckAllocationsMethod,
    .ckAllocationsCashFieldsScoped, .ckAllocationsCashCoversAmount,
    .ckAllocationsLinkFieldsScoped, .uqLoyaltyProgramsBusinessId,
    .fkLoyaltyTransactionsCustomerId, .uqLoyaltyTransactionsBusinessIdIdempotencyKey,
    .uqStockMovementsBusinessIdIdempotencyKey, .stocktakeSessionsPkey,
    .uqStocktakeLinesStocktakeSessionIdIngredientId, .fkStocktakeLinesIngredientId,
    .wastageEntriesPkey, .goodsReceiptsPkey, .uqGoodsReceiptsBusinessIdempotencyKey,
    .uqConversationSessionsBusinessCustomer, .uqMessagesWaMessageId,
    .uqDailyUsageBusinessDay, .uqBusinessesStripeCustomerId, .uqBusinessesStripeSubscriptionId, .deliveryConnectionsPkey,
    .uqDeliveryConnectionsBusinessProvider, .uqDeliveryConnectionsProviderExternalStoreId,
    .deliveryWebhookEventsPkey, .uqDeliveryWebhookEventsProviderEventId, .deliveryOrdersPkey,
    .uqDeliveryOrdersBusinessProviderExternalOrderId, .uqDeliveryOrdersOrderId]

theorem mem_all (c : Constraint) : c ∈ all := by
  cases c <;> decide

def Holds (t : Tables) : Constraint → Prop
  | businessesPkey => t.businesses.PrimaryKey
  | menuCategoriesPkey => t.menuCategories.PrimaryKey
  | menuItemsPkey => t.menuItems.PrimaryKey
  | menuAddOnsPkey => t.menuAddOns.PrimaryKey
  | recipesPkey => t.recipes.PrimaryKey
  | ckRecipesExactlyOneParent => ∀ r ∈ t.recipes, r.menuItemId.isSome ↔ r.menuAddOnId = none
  | assetsPkey => t.assets.PrimaryKey
  | suppliersPkey => t.suppliers.PrimaryKey
  | externalProductMappingsPkey => t.externalProductMappings.PrimaryKey
  | uqExternalProductMappingsBusinessPlatformKindKey =>
      t.externalProductMappings.Unique fun m =>
        some (m.businessId, m.platform, m.kind, m.externalKey)
  | ingredientsPkey => t.ingredients.PrimaryKey
  | customersPkey => t.customers.PrimaryKey
  | uqCustomersBusinessWaId =>
      t.customers.Unique fun c => c.waId.map fun waId => (c.businessId, waId)
  | ckCustomersLoyaltyPointsBalanceNonneg => ∀ c ∈ t.customers, 0 ≤ c.loyaltyPointsBalance
  | tillSessionsPkey => t.tillSessions.PrimaryKey
  | uqTillSessionsOneOpenPerBusiness =>
      t.tillSessions.Unique fun s => if s.status = .open then some s.businessId else none
  | ordersPkey => t.orders.PrimaryKey
  | uqOrdersBusinessIdOrderNumber =>
      t.orders.Unique fun o => some (o.businessId, o.orderNumber)
  | uqOrdersBusinessIdempotencyKey =>
      t.orders.Unique fun o => o.idempotencyKey.map fun raw => (o.businessId, raw)
  | uqOrdersBusinessSourceExternalId =>
      t.orders.Unique fun o => o.externalOrderId.map fun raw => (o.businessId, o.source, raw)
  | fkOrdersCustomerId =>
      ∀ o ∈ t.orders, ∀ c ∈ o.customerId, (t.customers.lookup c).isSome
  | fkOrdersTillSessionId =>
      ∀ o ∈ t.orders, ∀ s ∈ o.tillSessionId, (t.tillSessions.lookup s).isSome
  | intentsPkey => t.intents.PrimaryKey
  | ckIntentsAmountPositive => ∀ i ∈ t.intents, 0 < i.amountCents
  | ckIntentsProvider => ∀ i ∈ t.intents, i.provider = "YOCO" ∨ i.provider = "PAYFAST"
  | ckIntentsConsumedHasOrder => ∀ i ∈ t.intents, i.status ≠ .consumed ∨ i.orderId.isSome
  | uqIntentsOrderId => t.intents.Unique fun i => i.orderId
  | fkIntentsOrderId => ∀ i ∈ t.intents, ∀ o ∈ i.orderId, (t.orders.lookup o).isSome
  | allocationsPkey => t.allocations.PrimaryKey
  | fkAllocationsOrderId => ∀ a ∈ t.allocations, (t.orders.lookup a.orderId).isSome
  | ckAllocationsAmountPositive => ∀ a ∈ t.allocations, 0 < a.amountCents
  | ckAllocationsMethod =>
      ∀ a ∈ t.allocations, a.paymentMethod ∈ [.cash, .card, .other, .payByLink]
  | ckAllocationsCashFieldsScoped =>
      ∀ a ∈ t.allocations,
        a.paymentMethod = .cash ∨ (a.cashTenderedCents = none ∧ a.changeDueCents = none)
  | ckAllocationsCashCoversAmount =>
      ∀ a ∈ t.allocations,
        a.paymentMethod ≠ .cash ∨ ∃ tendered ∈ a.cashTenderedCents, a.amountCents ≤ tendered
  | ckAllocationsLinkFieldsScoped =>
      ∀ a ∈ t.allocations,
        a.paymentMethod = .payByLink ∨ (a.provider = none ∧ a.paymentLinkIntentId = none)
  | uqLoyaltyProgramsBusinessId => t.loyaltyPrograms.PrimaryKey
  | fkLoyaltyTransactionsCustomerId =>
      ∀ x ∈ t.loyaltyTransactions, (t.customers.lookup x.customerId).isSome
  | uqLoyaltyTransactionsBusinessIdIdempotencyKey =>
      Table.Unique (fun x : LoyaltyTransaction =>
        x.idempotencyKey.map fun k => (x.businessId, k)) t.loyaltyTransactions
  | uqStockMovementsBusinessIdIdempotencyKey =>
      Table.Unique (fun x : StockMovement =>
        x.idempotencyKey.map fun k => (x.businessId, k)) t.stockMovements
  | stocktakeSessionsPkey => t.stocktakeSessions.PrimaryKey
  | uqStocktakeLinesStocktakeSessionIdIngredientId =>
      Table.Unique (fun l : StocktakeLine => some (l.stocktakeSessionId, l.ingredientId))
        t.stocktakeLines
  | fkStocktakeLinesIngredientId =>
      ∀ l ∈ t.stocktakeLines, (t.ingredients.lookup l.ingredientId).isSome
  | wastageEntriesPkey => t.wastageEntries.PrimaryKey
  | goodsReceiptsPkey => t.goodsReceipts.PrimaryKey
  | uqGoodsReceiptsBusinessIdempotencyKey =>
      t.goodsReceipts.Unique fun g => g.idempotencyKey.map fun raw => (g.businessId, raw)
  | uqConversationSessionsBusinessCustomer => t.conversationSessions.PrimaryKey
  | uqMessagesWaMessageId => Table.Unique (fun m : Message => m.waMessageId) t.messages
  | uqDailyUsageBusinessDay => t.dailyUsage.PrimaryKey
  | uqBusinessesStripeCustomerId => t.businesses.Unique fun b => b.stripeCustomerId
  | uqBusinessesStripeSubscriptionId => t.businesses.Unique fun b => b.stripeSubscriptionId
  | deliveryConnectionsPkey => t.deliveryConnections.PrimaryKey
  | uqDeliveryConnectionsBusinessProvider =>
      t.deliveryConnections.Unique fun c => some (c.businessId, c.provider)
  | uqDeliveryConnectionsProviderExternalStoreId =>
      t.deliveryConnections.Unique fun c => c.externalStoreId.map fun store => (c.provider, store)
  | deliveryWebhookEventsPkey => t.deliveryWebhookEvents.PrimaryKey
  | uqDeliveryWebhookEventsProviderEventId =>
      t.deliveryWebhookEvents.Unique fun e => some (e.provider, e.eventId)
  | deliveryOrdersPkey => t.deliveryOrders.PrimaryKey
  | uqDeliveryOrdersBusinessProviderExternalOrderId =>
      t.deliveryOrders.Unique fun d => some (d.businessId, d.provider, d.externalOrderId)
  | uqDeliveryOrdersOrderId => t.deliveryOrders.Unique fun d => d.orderId

instance (t : Tables) (c : Constraint) : Decidable (c.Holds t) := by
  cases c <;> dsimp only [Holds] <;> infer_instance

end Constraint

def Tables.violation (t : Tables) : Option Constraint :=
  Constraint.all.find? fun c => ¬ c.Holds t

theorem Tables.violation_eq_none {t : Tables} :
    t.violation = none ↔ ∀ c : Constraint, c.Holds t := by
  simp [violation, Constraint.mem_all]

theorem Tables.violation_eq_some {t : Tables} {c : Constraint} (h : t.violation = some c) :
    ¬ c.Holds t := by
  simpa using List.find?_some h

structure Database extends Tables where
  now : Instant
  -- The worker's queue: it lives outside the database, so no transaction covers it.
  jobs : List QueuedJob := []
  valid : ∀ c : Constraint, c.Holds toTables

def cancelledBy (db db' : Database) : List Order :=
  db.orders.filter fun o =>
    o.status ≠ .cancelled ∧ (db'.orders.lookup o.id).any fun o' => o'.status = .cancelled

abbrev Pending := Tables → Tables

end NextgenBackend
