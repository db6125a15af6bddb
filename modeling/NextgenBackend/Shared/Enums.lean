import Mathlib

namespace NextgenBackend

inductive BusinessUserRole where
  | owner | manager | staff
deriving DecidableEq, Repr

inductive OrderStatus where
  | pendingDeliveryFee | feeSent | new | accepted | inProgress | ready
  | collected | delivered | completed | cancelled
deriving DecidableEq, Repr

inductive OrderMode where
  | pickup | delivery | dineIn
deriving DecidableEq, Repr

inductive OrderSource where
  | whatsapp | manual | admin | pos | uberEats | mrD | otherExternal
deriving DecidableEq, Repr

inductive PaymentStatus where
  | unpaid | pending | paid | partiallyRefunded | refunded | failed | voided | cashOnCollection
deriving DecidableEq, Repr

inductive PaymentMethod where
  | cash | card | other | split | payByLink | payOnCollection | directEft | payshap
  | yoco | payfast | stitch | manual | externalPlatform
deriving DecidableEq, Repr

inductive IntentStatus where
  | pending | paid | failed | expired | cancelled | consumed
deriving DecidableEq, Repr

inductive ProviderRefundStatus where
  | pendingManual | confirmed
deriving DecidableEq, Repr

inductive TillStatus where
  | open | closed
deriving DecidableEq, Repr

inductive LoyaltyTransactionType where
  | earn | redeem | expire | bonus | adjust
deriving DecidableEq, Repr

inductive LoyaltyTier where
  | bronze | silver | gold
deriving DecidableEq, Repr

inductive StockMovementType where
  | openingBalance | goodsReceived | saleConsumption | saleReversal | remakeConsumption
  | wastage | staffMeal | complimentary | manualAdjustment | stocktakeAdjustment
  | supplierReturn | wastageReversal
deriving DecidableEq, Repr

inductive CanonicalUnit where
  | gram | millilitre | unit
deriving DecidableEq, Repr

inductive CountMethod where
  | unitCount | weight | volume
deriving DecidableEq, Repr

inductive WastageReason where
  | dropped | burnt | incorrectPreparation | remake | spoiled | expired | damagedPackaging
  | staffMeal | complimentary | training | other
deriving DecidableEq, Repr

def WastageReason.value : WastageReason → String
  | .dropped => "DROPPED"
  | .burnt => "BURNT"
  | .incorrectPreparation => "INCORRECT_PREPARATION"
  | .remake => "REMAKE"
  | .spoiled => "SPOILED"
  | .expired => "EXPIRED"
  | .damagedPackaging => "DAMAGED_PACKAGING"
  | .staffMeal => "STAFF_MEAL"
  | .complimentary => "COMPLIMENTARY"
  | .training => "TRAINING"
  | .other => "OTHER"

inductive StocktakeStatus where
  | draft | completed | approved | cancelled
deriving DecidableEq, Repr

inductive ConversationState where
  | idle | greeting | browsingMenu | buildingCart | choosingOptions | choosingOrderMode
  | confirmingOrder | collectingDetails | waitingDeliveryFeeApproval | collectingPayment
  | orderPlaced | handoff
deriving DecidableEq, Repr

inductive DeliveryFeeStatus where
  | feeSent | approved
deriving DecidableEq, Repr

inductive ChosenPayment where
  | cashOnCollection | card
deriving DecidableEq, Repr

inductive MessageDirection where
  | inbound | outbound
deriving DecidableEq, Repr

inductive MessageIntent where
  | greeting | menuRequest | orderStart | orderAdd | orderRemove | orderConfirm | orderCancel
  | orderTrack | viewCart | specialsRequest | hoursRequest | locationRequest | humanHandoff
  | optOut | recommendation | unknown
deriving DecidableEq, Repr

inductive StockSourceType where
  | order | goodsReceipt | wastageEntry | stocktake | manual | openingStock
deriving DecidableEq, Repr

inductive BillingStatus where
  | trial | active | pastDue | suspended | cancelled
deriving DecidableEq, Repr

inductive BillingProvider where
  | stripe | payfast | eft | cash | unknown
deriving DecidableEq, Repr

inductive InvoiceStatus where
  | paid | failed
deriving DecidableEq, Repr

inductive DeliveryConnectionStatus where
  | notConnected | sandbox | awaitingApproval | connected | attentionRequired | disabled
deriving DecidableEq, Repr

inductive DeliveryOrderStatus where
  | received | fetching | needsMapping | readyToAccept | accepted | denied | fulfilled
  | cancelled | failed | unknown
deriving DecidableEq, Repr

inductive ExternalMappingKind where
  | item | modifier | modifierGroup | category
deriving DecidableEq, Repr

def DeliveryOrderStatus.value : DeliveryOrderStatus → String
  | .received => "RECEIVED"
  | .fetching => "FETCHING"
  | .needsMapping => "NEEDS_MAPPING"
  | .readyToAccept => "READY_TO_ACCEPT"
  | .accepted => "ACCEPTED"
  | .denied => "DENIED"
  | .fulfilled => "FULFILLED"
  | .cancelled => "CANCELLED"
  | .failed => "FAILED"
  | .unknown => "UNKNOWN"

def OrderStatus.value : OrderStatus → String
  | .pendingDeliveryFee => "PENDING_DELIVERY_FEE"
  | .feeSent => "FEE_SENT"
  | .new => "NEW"
  | .accepted => "ACCEPTED"
  | .inProgress => "IN_PROGRESS"
  | .ready => "READY"
  | .collected => "COLLECTED"
  | .delivered => "DELIVERED"
  | .completed => "COMPLETED"
  | .cancelled => "CANCELLED"

def OrderStatus.all : List OrderStatus :=
  [.pendingDeliveryFee, .feeSent, .new, .accepted, .inProgress, .ready, .collected, .delivered,
    .completed, .cancelled]

def OrderStatus.ofValue (value : String) : Option OrderStatus :=
  OrderStatus.all.find? fun s => s.value = value

def orderStatusTransitions : OrderStatus → List OrderStatus
  | .pendingDeliveryFee => [.feeSent, .cancelled]
  | .feeSent => [.new, .cancelled]
  | .new => [.accepted, .cancelled]
  | .accepted => [.inProgress, .cancelled]
  | .inProgress => [.ready, .cancelled]
  | .ready => [.collected, .delivered, .completed, .cancelled]
  | .collected => []
  | .delivered => []
  | .completed => []
  | .cancelled => []

def PaymentStatus.value : PaymentStatus → String
  | .unpaid => "UNPAID"
  | .pending => "PENDING"
  | .paid => "PAID"
  | .partiallyRefunded => "PARTIALLY_REFUNDED"
  | .refunded => "REFUNDED"
  | .failed => "FAILED"
  | .voided => "VOIDED"
  | .cashOnCollection => "CASH_ON_COLLECTION"

def PaymentMethod.value : PaymentMethod → String
  | .cash => "CASH"
  | .card => "CARD"
  | .other => "OTHER"
  | .split => "SPLIT"
  | .payByLink => "PAY_BY_LINK"
  | .payOnCollection => "PAY_ON_COLLECTION"
  | .directEft => "DIRECT_EFT"
  | .payshap => "PAYSHAP"
  | .yoco => "YOCO"
  | .payfast => "PAYFAST"
  | .stitch => "STITCH"
  | .manual => "MANUAL"
  | .externalPlatform => "EXTERNAL_PLATFORM"

def IntentStatus.value : IntentStatus → String
  | .pending => "PENDING"
  | .paid => "PAID"
  | .failed => "FAILED"
  | .expired => "EXPIRED"
  | .cancelled => "CANCELLED"
  | .consumed => "CONSUMED"

def IntentStatus.lowerValue : IntentStatus → String
  | .pending => "pending"
  | .paid => "paid"
  | .failed => "failed"
  | .expired => "expired"
  | .cancelled => "cancelled"
  | .consumed => "consumed"

end NextgenBackend
