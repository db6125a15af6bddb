import NextgenBackend.Library.Table
import NextgenBackend.Shared.Enums

namespace NextgenBackend

abbrev Uuid := Nat

abbrev Instant := Nat

abbrev Cents := Int

structure Business where
  id : Uuid
  currency : String := "ZAR"
  deliveryFeeCents : Cents := 0
  orderNumberSequence : Nat := 0
  paymentProvider : Option String := none
  paymentApiKey : Option String := none
  paymentApiSecret : Option String := none
  paymentWebhookSecret : Option String := none
  maxStaffDiscountCents : Cents := 0
  posEnabled : Bool := true
  posCashEnabled : Bool := true
  posCardEnabled : Bool := true
  posPayfastEnabled : Bool := false
  posYocoEnabled : Bool := false
  posIkhokaEnabled : Bool := false
  posDirectEftEnabled : Bool := false
  posOtherPaymentEnabled : Bool := false
  posTableNumberRequired : Bool := false
  vatRegistered : Bool := false
  vatRateBasisPoints : Int := 0
  vatInclusivePricing : Bool := true
  inventoryEnabled : Bool := false
  loyaltyEnabled : Bool := false
  wastageApprovalThresholdCents : Cents := 0
  deliveryReconciliationEnabled : Bool := false
  isActive : Bool := true
  whatsappPhoneNumberId : Option String := none
  whatsappPaused : Bool := false
  whatsappPausedAt : Option Instant := none
  orderInOnly : Bool := false
  deliveryEnabled : Bool := false
  requireCustomerName : Bool := false
  requirePhoneNumber : Bool := true
  requireDeliveryAddress : Bool := true
  onlinePaymentRequired : Bool := false
  timezone : String := "Africa/Johannesburg"
  dailyMessageLimit : Int := 800
  dailyLlmCallLimit : Int := 400
  dailyOrderLimit : Int := 200
  paymentTimeoutMinutes : Nat := 30
  plan : String := "STARTER"
  billingStatus : BillingStatus := .trial
  suspendedReason : Option String := none
  billingPeriodStartedAt : Instant := 0
  stripeCustomerId : Option String := none
  stripeSubscriptionId : Option String := none
  deliveryPlatformsEnabled : Bool := false
  uberEatsEnabled : Bool := false
  mrdEnabled : Bool := false
  name : String := ""
  address : Option String := none
  phone : Option String := none
  vatNumber : Option String := none
  convertedAt : Option Instant := none
  trialEndsAt : Option Instant := none
  onboardedByAdminId : Option Uuid := none
  onboardingCompletedAt : Option Instant := none
  businessCode : String := ""
  whatsappBusinessAccountId : Option String := none
  isWhatsappEnabled : Bool := true
  digitalReceiptsEnabled : Bool := false
  trialStartedAt : Option Instant := none
  trialExtensionDaysTotal : Nat := 0
deriving DecidableEq, Repr

structure MenuOption where
  id : String
  name : String
  priceDeltaCents : Cents
  isEnabled : Bool
deriving DecidableEq, Repr

structure OptionGroup where
  id : String
  name : String
  required : Bool
  isEnabled : Bool
  options : List MenuOption
  minSelections : Nat := 0
  maxSelections : Nat := 1
deriving DecidableEq, Repr

structure RemovableIngredient where
  id : String
  name : String
deriving DecidableEq, Repr

structure MenuCategory where
  id : Uuid
  businessId : Uuid
  name : String
  sortOrder : Int := 0
deriving DecidableEq, Repr

structure MenuItem where
  id : Uuid
  businessId : Uuid
  name : String
  priceCents : Cents
  optionGroups : List OptionGroup
  removableIngredients : List RemovableIngredient
  addOnIds : List Uuid
  isActive : Bool
  isDeleted : Bool
  requiresPreparation : Bool
  categoryId : Option Uuid := none
  description : Option String := none
  currency : String := "ZAR"
  sortOrder : Int := 0
  imageUrl : Option String := none
  imageAssetId : Option Uuid := none
deriving DecidableEq, Repr

structure MenuAddOn where
  id : Uuid
  businessId : Uuid
  name : String
  priceCents : Cents
  minQty : Int
  maxQty : Int
  isActive : Bool
  isDeleted : Bool
deriving DecidableEq, Repr

structure RecipeItem where
  ingredientId : Uuid
  quantityMilli : Int
  optionId : Option String
  removableRefId : Option String
  sortOrder : Int
  optionGroupId : Option String := none
deriving DecidableEq, Repr

structure Recipe where
  id : Uuid
  businessId : Uuid
  menuItemId : Option Uuid
  menuAddOnId : Option Uuid
  isActive : Bool
  yieldQty : Nat
  yieldPositive : 0 < yieldQty
  items : List RecipeItem
  version : Nat := 1
  notes : Option String := none
deriving DecidableEq, Repr

structure Ingredient where
  id : Uuid
  businessId : Uuid
  name : String
  canonicalUnit : CanonicalUnit
  countMethod : CountMethod := .unitCount
  purchasePackMilli : Int := 1000
  costPerCanonicalMicroCents : Int := 0
  isActive : Bool := true
  isDeleted : Bool := false
deriving DecidableEq, Repr

structure Customer where
  id : Uuid
  businessId : Uuid
  waId : Option String
  displayName : Option String
  phoneNumber : Option String
  loyaltyPointsBalance : Int := 0
  loyaltyTier : LoyaltyTier := .bronze
  loyaltyPointsExpireAt : Option Instant := none
  optedOut : Bool := false
  lastMessageAt : Option Instant := none
deriving DecidableEq, Repr

structure TillSession where
  id : Uuid
  businessId : Uuid
  openedByUserId : Uuid
  openingFloatCents : Cents
  openedAt : Instant
  status : TillStatus := .open
  closedByUserId : Option Uuid := none
  approvedByUserId : Option Uuid := none
  expectedCashCents : Option Cents := none
  countedCashCents : Option Cents := none
  varianceCents : Option Cents := none
  closedAt : Option Instant := none
deriving DecidableEq, Repr

structure Order where
  id : Uuid
  businessId : Uuid
  customerId : Option Uuid
  orderNumber : String
  status : OrderStatus
  paymentStatus : PaymentStatus
  orderMode : OrderMode
  source : OrderSource
  subtotalCents : Cents
  deliveryFeeCents : Cents
  totalCents : Cents
  currency : String
  customerName : Option String := none
  phoneNumber : Option String := none
  deliveryAddress : Option String := none
  confirmedAt : Option Instant := none
  acceptedAt : Option Instant := none
  estimatedReadyAt : Option Instant := none
  readyAt : Option Instant := none
  completedAt : Option Instant := none
  paymentRequired : Bool := false
  paymentMethod : Option PaymentMethod := none
  paymentLinkUrl : Option String := none
  paymentReference : Option String := none
  paidAt : Option Instant := none
  refundReference : Option String := none
  refundAmountCents : Option Cents := none
  refundedAt : Option Instant := none
  cancelledReason : Option String := none
  cancelledByUserId : Option Uuid := none
  discountCents : Cents := 0
  taxCents : Cents := 0
  discountReason : Option String := none
  discountApprovedByUserId : Option Uuid := none
  tableNumber : Option String := none
  cashTenderedCents : Option Cents := none
  changeDueCents : Option Cents := none
  tillSessionId : Option Uuid := none
  idempotencyKey : Option String := none
  createdByUserId : Option Uuid := none
  loyaltyDiscountCents : Cents := 0
  loyaltyRewardId : Option Uuid := none
  loyaltyPointsRedeemed : Int := 0
  loyaltyRewardName : Option String := none
  refundCashCents : Option Cents := none
  externalOrderId : Option String := none
  externalPlacedAt : Option Instant := none
  externalStatus : Option String := none
  specialInstructions : Option String := none
  createdAt : Instant := 0
deriving DecidableEq, Repr

structure SelectedOption where
  groupId : String
  groupName : String
  optionId : String
  optionName : String
  priceDeltaCents : Cents
deriving DecidableEq, Repr

structure SelectedAddOn where
  addOnId : Uuid
  name : String
  priceCents : Cents
  quantity : Int
deriving DecidableEq, Repr

structure LineItemBreakdown where
  basePriceCents : Cents
  optionAdjustmentCents : Cents
  addOnTotalCents : Cents
  unitPriceCents : Cents
  quantity : Int
  lineTotalCents : Cents
deriving DecidableEq, Repr

structure OrderItem where
  orderId : Uuid
  businessId : Uuid
  menuItemId : Option Uuid
  nameSnapshot : String
  breakdown : LineItemBreakdown
  selectedOptionsSnapshot : List SelectedOption
  addOnsSnapshot : List SelectedAddOn
  removedIngredientsSnapshot : List RemovableIngredient
  specialInstructions : Option String
  isAdHocPrice : Bool := false
deriving DecidableEq, Repr

structure OrderEvent where
  orderId : Uuid
  businessId : Uuid
  oldStatus : Option OrderStatus
  newStatus : OrderStatus
  changedByUserId : Option Uuid
  reason : Option String
deriving DecidableEq, Repr

structure POSPaymentAllocation where
  id : Uuid × Nat
  businessId : Uuid
  orderId : Uuid
  tillSessionId : Option Uuid
  paymentMethod : PaymentMethod
  amountCents : Cents
  cashTenderedCents : Option Cents := none
  changeDueCents : Option Cents := none
  paymentReference : Option String := none
  provider : Option String := none
  paymentLinkIntentId : Option Uuid := none
  paidAt : Option Instant := none
  createdByUserId : Option Uuid := none
  createdAt : Instant
  providerRefundStatus : Option ProviderRefundStatus := none
  providerRefundConfirmedAt : Option Instant := none
  providerRefundConfirmedByUserId : Option Uuid := none
deriving DecidableEq, Repr

-- An MD5 signature is known by the text it was computed over.
structure PayFastSignature where
  baseString : String
deriving DecidableEq, Repr

inductive PaymentLink where
  | hosted (url : String)
  | payfast (params : List (String × String)) (signature : PayFastSignature)
deriving DecidableEq, Repr

structure POSPaymentLinkIntent where
  id : Uuid
  businessId : Uuid
  tillSessionId : Option Uuid
  createdByUserId : Option Uuid
  amountCents : Cents
  currency : String
  provider : String
  status : IntentStatus
  providerReference : Option String := none
  paymentLinkUrl : Option PaymentLink := none
  customerPhone : Option String
  orderId : Option Uuid := none
  createdAt : Instant
  expiresAt : Instant
  paidAt : Option Instant := none
  consumedAt : Option Instant := none
  cancelledAt : Option Instant := none
deriving DecidableEq, Repr

structure LoyaltyProgram where
  businessId : Uuid
  isEnabled : Bool
  pointsPerRand : Int
  pointsPerOrder : Int
  pointsExpiryDays : Option Nat
  minRedemptionPoints : Int
  silverTierPoints : Int
  goldTierPoints : Int
  doublePointsPromoActive : Bool
  doublePointsPromoStartsAt : Option Instant
  doublePointsPromoEndsAt : Option Instant
deriving DecidableEq, Repr

structure LoyaltyReward where
  id : Uuid
  businessId : Uuid
  name : String
  pointsCost : Int
  isActive : Bool
  valueCents : Option Cents
deriving DecidableEq, Repr

inductive LoyaltyIdempotencyKey where
  | redeem (orderId : Uuid)
  | redeemReversal (orderId : Uuid)
  | adjust (raw : String)
deriving DecidableEq, Repr

structure LoyaltyTransaction where
  businessId : Uuid
  customerId : Uuid
  orderId : Option Uuid := none
  transactionType : LoyaltyTransactionType
  pointsDelta : Int
  balanceAfter : Int
  reason : Option String
  idempotencyKey : Option LoyaltyIdempotencyKey := none
deriving DecidableEq, Repr

inductive StockIdempotencyKey where
  | sale (orderId ingredientId : Uuid)
  | reversal (orderId ingredientId : Uuid)
  | stocktakeAdjustment (sessionId ingredientId : Uuid)
  | wastage (entryId ingredientId : Uuid)
  | wastageReversal (entryId ingredientId : Uuid)
  | openingBalance (ingredientId : Uuid)
deriving DecidableEq, Repr

structure StockMovement where
  businessId : Uuid
  ingredientId : Uuid
  quantityMilli : Int
  movementType : StockMovementType
  sourceType : Option StockSourceType
  sourceId : Option Uuid
  unitCostMicroCents : Int
  valueCents : Cents
  createdByUserId : Option Uuid
  idempotencyKey : Option StockIdempotencyKey
  notes : Option String
  occurredAt : Instant
deriving DecidableEq, Repr

structure StocktakeSession where
  id : Uuid
  businessId : Uuid
  reference : Option String
  status : StocktakeStatus := .draft
  cutoffAt : Instant
  periodStartAt : Option Instant
  openedByUserId : Option Uuid
  completedByUserId : Option Uuid := none
  approvedByUserId : Option Uuid := none
  openedAt : Instant
  completedAt : Option Instant := none
  approvedAt : Option Instant := none
  totalVarianceValueCents : Cents := 0
  totalTheoreticalValueCents : Cents := 0
  notes : Option String := none
deriving DecidableEq, Repr

structure StocktakeLine where
  businessId : Uuid
  stocktakeSessionId : Uuid
  ingredientId : Uuid
  countedQuantityMilli : Option Int := none
  enteredQuantity : Option String := none
  enteredUnit : Option String := none
  countMethodSnapshot : Option CountMethod := none
  openingQuantityMilli : Int := 0
  receivedQuantityMilli : Int := 0
  theoreticalConsumptionMilli : Int := 0
  wastageQuantityMilli : Int := 0
  adjustmentQuantityMilli : Int := 0
  expectedQuantityMilli : Int := 0
  varianceQuantityMilli : Int := 0
  varianceValueCents : Cents := 0
  varianceBasisPoints : Option Int := none
  unitCostMicroCents : Int := 0
  notes : Option String := none
deriving DecidableEq, Repr

structure Asset where
  id : Uuid
  businessId : Uuid
  storagePath : String := ""
  entityId : Option Uuid := none
deriving DecidableEq, Repr

structure Supplier where
  id : Uuid
  businessId : Uuid
deriving DecidableEq, Repr

structure GoodsReceipt where
  id : Uuid
  businessId : Uuid
  supplierId : Option Uuid
  reference : Option String
  receivedByUserId : Option Uuid
  totalCostCents : Cents := 0
  notes : Option String
  idempotencyKey : Option String
  occurredAt : Instant
deriving DecidableEq, Repr

structure GoodsReceiptLine where
  businessId : Uuid
  goodsReceiptId : Uuid
  ingredientId : Uuid
  enteredQuantity : String
  enteredUnit : String
  quantityMilli : Int
  unitCostCents : Option Cents
  lineCostCents : Cents
deriving DecidableEq, Repr

structure WastageEntry where
  id : Uuid
  businessId : Uuid
  ingredientId : Uuid
  quantityMilli : Int
  enteredQuantity : String
  enteredUnit : String
  reason : WastageReason
  note : Option String
  valueCents : Cents
  createdByUserId : Option Uuid
  approvedByUserId : Option Uuid
  rejectedByUserId : Option Uuid := none
  rejectedAt : Option Instant := none
  rejectionReason : Option String := none
  photoAssetId : Option Uuid
  relatedOrderId : Option Uuid
  occurredAt : Instant
deriving DecidableEq, Repr

structure CartItem where
  menuItemId : Uuid
  name : String
  breakdown : LineItemBreakdown
  selectedOptions : List SelectedOption
  addOns : List SelectedAddOn
  specialInstructions : Option String
deriving DecidableEq, Repr

-- What the customer has told the bot about the next order.
structure Draft where
  cart : List CartItem := []
  confirmedCart : List CartItem := []
  orderMode : Option OrderMode := none
  customerName : Option String := none
  phoneNumber : Option String := none
  deliveryAddress : Option String := none
  orderNotesAsked : Bool := false
  orderNotes : Option (Option String) := none
deriving DecidableEq, Repr

structure Context where
  draft : Draft := {}
  pendingOrderId : Option Uuid := none
  deliveryFeeCents : Option Cents := none
  deliveryFeeStatus : Option DeliveryFeeStatus := none
  paymentMethod : Option ChosenPayment := none
  supersededOrderId : Option Uuid := none
  closedMsgSentDate : Option String := none
  busyMsgSentFor : Option String := none
deriving DecidableEq, Repr

structure ConversationSession where
  businessId : Uuid
  customerId : Uuid
  state : ConversationState
  context : Context
  lastActivityAt : Instant
  expiresAt : Option Instant
deriving DecidableEq, Repr

structure UsageCounts where
  inboundMessages : Int := 0
  outboundMessages : Int := 0
  llmCalls : Int := 0
  llmTokens : Int := 0
  llmCostCents : Cents := 0
  ordersCreated : Int := 0
  ordersCompleted : Int := 0
  cancelledOrders : Int := 0
  revenueCents : Cents := 0
  uniqueCustomers : Int := 0
deriving DecidableEq, Repr

structure DailyUsage where
  businessId : Uuid
  day : Int
  counts : UsageCounts
deriving DecidableEq, Repr

structure Message where
  businessId : Uuid
  customerId : Uuid
  waMessageId : Option String
  direction : MessageDirection
  text : Option String := none
  intent : Option MessageIntent := none
deriving DecidableEq, Repr

structure BillingInvoice where
  businessId : Uuid
  provider : BillingProvider
  providerReference : Option String
  amountCents : Cents
  status : InvoiceStatus
  plan : Option String
  issuedAt : Instant
deriving DecidableEq, Repr

structure ExternalProductMapping where
  id : Uuid
  businessId : Uuid
  platform : String
  kind : ExternalMappingKind
  externalText : String
  externalKey : String
  externalId : Option String := none
  menuItemId : Option Uuid := none
  optionId : Option String := none
  menuAddOnId : Option Uuid := none
  removableRefId : Option String := none
  isIgnored : Bool := false
  createdByUserId : Option Uuid := none
deriving DecidableEq, Repr

structure DeliveryConnection where
  id : Uuid
  businessId : Uuid
  provider : String
  externalStoreId : Option String
  status : DeliveryConnectionStatus := .notConnected
  environment : String := "production"
  autoAcceptEnabled : Bool := false
deriving DecidableEq, Repr

structure DeliveryWebhookEvent where
  id : Uuid
  provider : String
  eventId : String
  externalStoreId : Option String
  businessId : Option Uuid := none
  eventType : Option String
  environment : Option String
  signatureValid : Bool
  errorCategory : Option String
  receivedAt : Instant
deriving DecidableEq, Repr

structure DeliverySnapshot where
  displayId : Option String
  orderType : Option String
  itemCount : Int
  subtotalCents : Option Cents
  taxCents : Option Cents
  feeCents : Option Cents
  totalCents : Option Cents
  fulfillmentIssues : List String
  providerMetadata : List (String × String)
deriving DecidableEq, Repr

structure DeliveryOrder where
  id : Uuid
  businessId : Uuid
  provider : String
  deliveryConnectionId : Option Uuid
  externalOrderId : String
  externalStoreId : String
  rawEventId : Option Uuid
  status : DeliveryOrderStatus := .received
  orderId : Option Uuid := none
  acceptDeadlineAt : Option Instant
  acceptedAt : Option Instant := none
  deniedAt : Option Instant := none
  cancelledAt : Option Instant := none
  denyReasonCode : Option String := none
  denyReasonText : Option String := none
  grossCents : Option Cents := none
  feeCents : Option Cents := none
  currency : String := "ZAR"
  placedAt : Option Instant := none
  fetchedOrderSnapshot : Option DeliverySnapshot := none
  unresolvedItems : Option (List String) := none
  failureReason : Option String := none
deriving DecidableEq, Repr

inductive DeliveryJob where
  | processDeliveryOrder (provider : String) (businessId : Uuid) (externalOrderId : String)
      (eventType : Option String) (forceAccept : Bool)
  | processDeliveryCancellation (provider : String) (businessId : Uuid) (externalOrderId : String)
deriving DecidableEq, Repr

structure QueuedJob where
  id : Uuid
  job : DeliveryJob
deriving DecidableEq, Repr

instance : Keyed Business Uuid := ⟨Business.id⟩
instance : Keyed MenuCategory Uuid := ⟨MenuCategory.id⟩
instance : Keyed MenuItem Uuid := ⟨MenuItem.id⟩
instance : Keyed MenuAddOn Uuid := ⟨MenuAddOn.id⟩
instance : Keyed Recipe Uuid := ⟨Recipe.id⟩
instance : Keyed Ingredient Uuid := ⟨Ingredient.id⟩
instance : Keyed Customer Uuid := ⟨Customer.id⟩
instance : Keyed TillSession Uuid := ⟨TillSession.id⟩
instance : Keyed Order Uuid := ⟨Order.id⟩
instance : Keyed POSPaymentAllocation (Uuid × Nat) := ⟨POSPaymentAllocation.id⟩
instance : Keyed POSPaymentLinkIntent Uuid := ⟨POSPaymentLinkIntent.id⟩
instance : Keyed LoyaltyProgram Uuid := ⟨LoyaltyProgram.businessId⟩
instance : Keyed LoyaltyReward Uuid := ⟨LoyaltyReward.id⟩
instance : Keyed StocktakeSession Uuid := ⟨StocktakeSession.id⟩
instance : Keyed Asset Uuid := ⟨Asset.id⟩
instance : Keyed Supplier Uuid := ⟨Supplier.id⟩
instance : Keyed WastageEntry Uuid := ⟨WastageEntry.id⟩
instance : Keyed GoodsReceipt Uuid := ⟨GoodsReceipt.id⟩
instance : Keyed ExternalProductMapping Uuid := ⟨ExternalProductMapping.id⟩
instance : Keyed DeliveryConnection Uuid := ⟨DeliveryConnection.id⟩
instance : Keyed DeliveryWebhookEvent Uuid := ⟨DeliveryWebhookEvent.id⟩
instance : Keyed DeliveryOrder Uuid := ⟨DeliveryOrder.id⟩
instance : Keyed DailyUsage (Uuid × Int) := ⟨fun u => (u.businessId, u.day)⟩
instance : Keyed ConversationSession (Uuid × Uuid) := ⟨fun s => (s.businessId, s.customerId)⟩

end NextgenBackend
