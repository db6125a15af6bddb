import NextgenBackend.Admin.LeadImport
import NextgenBackend.Api.RoutesAnalytics
import NextgenBackend.Api.RoutesExternalOrders
import NextgenBackend.Api.RoutesMenu
import NextgenBackend.Api.RoutesOrders.Listing
import NextgenBackend.Api.RoutesRecipes
import NextgenBackend.Billing.CommercialInvoices
import NextgenBackend.Billing.GracePeriod
import NextgenBackend.Billing.IssuedInvoices
import NextgenBackend.Billing.Lifecycle
import NextgenBackend.Billing.OrderQuota
import NextgenBackend.Billing.Settlement
import NextgenBackend.Billing.System
import NextgenBackend.Billing.Trials
import NextgenBackend.Billing.UsageAlerts
import NextgenBackend.Bot.ActionBlocks
import NextgenBackend.Bot.CancelAnswers
import NextgenBackend.Bot.Cart
import NextgenBackend.Bot.CartCorrections
import NextgenBackend.Bot.Confirmations
import NextgenBackend.Bot.DailyOrders
import NextgenBackend.Bot.ExtractedSpans
import NextgenBackend.Bot.Extraction
import NextgenBackend.Bot.FreshOrders
import NextgenBackend.Bot.IntentRouter
import NextgenBackend.Bot.LineDetectors
import NextgenBackend.Bot.LineEdits
import NextgenBackend.Bot.LlmActions
import NextgenBackend.Bot.LlmParser
import NextgenBackend.Bot.MenuMessages
import NextgenBackend.Bot.ModifierSplit
import NextgenBackend.Bot.Normalizer
import NextgenBackend.Bot.OutboxDelivery
import NextgenBackend.Bot.PriorOrders
import NextgenBackend.Bot.Quantities
import NextgenBackend.Bot.RecognisedItems
import NextgenBackend.Bot.ReplacedLines
import NextgenBackend.Bot.StoredContext
import NextgenBackend.Bot.UsageTracker
import NextgenBackend.Bot.VariantAllocation
import NextgenBackend.Core.Pagination
import NextgenBackend.Delivery.Commits
import NextgenBackend.Delivery.DeniedOrders
import NextgenBackend.Delivery.ForcedAccepts
import NextgenBackend.Delivery.Isolation
import NextgenBackend.Delivery.Lifecycle
import NextgenBackend.Delivery.Requests
import NextgenBackend.Delivery.SingleOrder
import NextgenBackend.Delivery.StrandedAccepts
import NextgenBackend.Delivery.UberMapping
import NextgenBackend.ExternalOrders.AdaptedRows
import NextgenBackend.ExternalOrders.Adapters
import NextgenBackend.ExternalOrders.OrderNumbers
import NextgenBackend.ExternalOrders.Quantities
import NextgenBackend.ExternalOrders.ReportDates
import NextgenBackend.ExternalOrders.RowAccounting
import NextgenBackend.ExternalOrders.RowOrder
import NextgenBackend.ExternalOrders.Service
import NextgenBackend.Inventory.Conversions
import NextgenBackend.Inventory.CutoffBalance
import NextgenBackend.Inventory.LiveStock
import NextgenBackend.Inventory.Periods
import NextgenBackend.Inventory.ReceiptValuation
import NextgenBackend.Inventory.RecipeCosting
import NextgenBackend.Inventory.RecordedChoices
import NextgenBackend.Inventory.RejectedWastage
import NextgenBackend.Inventory.Resolution
import NextgenBackend.Inventory.ReversalBalance
import NextgenBackend.Inventory.SessionLifecycle
import NextgenBackend.Inventory.StocktakeSchedule
import NextgenBackend.Inventory.WastageReview
import NextgenBackend.Library.Binary64
import NextgenBackend.Library.Decimal
import NextgenBackend.Library.Decimal.Number
import NextgenBackend.Library.Decimal.Plain
import NextgenBackend.Library.Dict
import NextgenBackend.Library.InBand
import NextgenBackend.Library.Keyset
import NextgenBackend.Library.Lockstep
import NextgenBackend.Library.Numerals
import NextgenBackend.Library.Paging
import NextgenBackend.Library.Pattern
import NextgenBackend.Library.Pattern.Outline
import NextgenBackend.Library.Regex
import NextgenBackend.Library.Text
import NextgenBackend.Library.Timetable
import NextgenBackend.Loyalty.Accounts
import NextgenBackend.Loyalty.AdjustmentTwins
import NextgenBackend.Loyalty.PointsLedger
import NextgenBackend.Loyalty.Redemptions
import NextgenBackend.Orders.FeeApproval
import NextgenBackend.Orders.PaidOrders
import NextgenBackend.Orders.PaymentGate
import NextgenBackend.Orders.PricingAgreement
import NextgenBackend.Orders.Snapshot
import NextgenBackend.Orders.System
import NextgenBackend.Payments.IkhokaSignature
import NextgenBackend.Payments.Payfast
import NextgenBackend.Payments.RefundStatus
import NextgenBackend.Payments.ReversalGuard
import NextgenBackend.Pos.CollectedCash
import NextgenBackend.Pos.IntentLifecycle
import NextgenBackend.Pos.LinkSplits
import NextgenBackend.Pos.OptionSelections
import NextgenBackend.Pos.PaymentPhones
import NextgenBackend.Pos.Placement
import NextgenBackend.Pos.ProviderRefunds
import NextgenBackend.Pos.RefundShares
import NextgenBackend.Pos.SplitPayments
import NextgenBackend.Receipts.CommandStream
import NextgenBackend.Receipts.Document
import NextgenBackend.Receipts.Escpos
import NextgenBackend.Receipts.SlipLayout
import NextgenBackend.Receipts.WhatsappReceipt
import NextgenBackend.Receipts.WordWrap
import NextgenBackend.Services.Lockout
import NextgenBackend.Shared.Vat
import NextgenBackend.Tenancy.ForeignIds
import NextgenBackend.Tenancy.ForeignSales
import NextgenBackend.Tenancy.References
import NextgenBackend.Tenancy.SoldReferences
import NextgenBackend.Tenancy.StoredReferences
import NextgenBackend.Utils.OpeningHours
import NextgenBackend.Utils.Phone
import NextgenBackend.Whatsapp.ConnectState
import NextgenBackend.Whatsapp.CustomerNumbers
