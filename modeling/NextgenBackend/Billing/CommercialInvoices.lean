import NextgenBackend.Billing.Lifecycle

namespace NextgenBackend.Invoicing

open Txn

inductive CommercialInvoiceStatus where
  | draft | sent | awaitingPayment | paid | overdue | cancelled
deriving DecidableEq, Repr

def CommercialInvoiceStatus.value : CommercialInvoiceStatus → String
  | .draft => "DRAFT"
  | .sent => "SENT"
  | .awaitingPayment => "AWAITING_PAYMENT"
  | .paid => "PAID"
  | .overdue => "OVERDUE"
  | .cancelled => "CANCELLED"

def unpaidIssuedStatuses : List CommercialInvoiceStatus :=
  [.sent, .awaitingPayment, .overdue]

inductive InvoiceLineKind where
  | setup | subscription | module | other
deriving DecidableEq, Repr

inductive InvoicePaymentMethod where
  | eft | cash
deriving DecidableEq, Repr

def InvoicePaymentMethod.provider : InvoicePaymentMethod → BillingProvider
  | .eft => .eft
  | .cash => .cash

structure CommercialInvoiceLine where
  sortOrder : Nat
  kind : InvoiceLineKind
  description : String
  quantity : Nat
  unitAmountCents : Nat
  lineTotalCents : Nat
deriving DecidableEq, Repr

structure CustomerSnapshot where
  name : String
  tradingName : String
  address : Option String
  phone : Option String
  vatRegistered : Bool
  vatNumber : Option String
deriving DecidableEq, Repr

structure SupplierSnapshot where
  legalName : String
  tradingName : String
  registrationNumber : String
  address : String
  contactEmail : String
  contactPhone : String
  vatRegistered : Bool
  vatNumber : String
  bankName : String
  bankAccountName : String
  bankAccountNumber : String
  bankBranchCode : String
  bankAccountType : String
  paymentTermsDays : Nat
deriving DecidableEq, Repr

-- A date is the number of days since the epoch.
abbrev Day := Nat

structure CommercialInvoice where
  id : Uuid
  businessId : Uuid
  invoiceNumber : Option String := none
  status : CommercialInvoiceStatus := .draft
  invoiceDate : Option Day := none
  dueDate : Option Day := none
  currency : String := "ZAR"
  subtotalCents : Cents := 0
  vatCents : Cents := 0
  vatRateBasisPoints : Int := 0
  totalCents : Cents := 0
  paymentMethod : Option InvoicePaymentMethod := none
  paidAt : Option Instant := none
  paymentReference : Option String := none
  internalNote : Option String := none
  paymentNote : Option String := none
  customerSnapshot : Option CustomerSnapshot := none
  supplierSnapshot : Option SupplierSnapshot := none
  createdByAdminId : Option Uuid := none
  paidRecordedByAdminId : Option Uuid := none
  issuedAt : Option Instant := none
  sentAt : Option Instant := none
  cancelledAt : Option Instant := none
  cancelledReason : Option String := none
  lines : List CommercialInvoiceLine := []
deriving DecidableEq, Repr

instance : Keyed CommercialInvoice Uuid := ⟨CommercialInvoice.id⟩

structure BookTables where
  businesses : Table Business := []
  billingInvoices : List BillingInvoice := []
  commercialInvoices : Table CommercialInvoice := []

structure BookTables.Valid (t : BookTables) : Prop where
  invoices : t.commercialInvoices.PrimaryKey
  numbers : t.commercialInvoices.Unique fun invoice => invoice.invoiceNumber

instance (t : BookTables) : Decidable t.Valid :=
  decidable_of_iff (t.commercialInvoices.PrimaryKey ∧
      t.commercialInvoices.Unique fun invoice => invoice.invoiceNumber)
    ⟨fun ⟨h, h'⟩ => ⟨h, h'⟩, fun ⟨h, h'⟩ => ⟨h, h'⟩⟩

structure Books extends BookTables where
  now : Instant
  -- The sequence of invoice numbers, and the number each connection drew last.
  lastNumber : Nat := 0
  drawn : Nat → Nat := fun _ => 0
  valid : toBookTables.Valid

inductive BooksKey where
  | business (id : Uuid)
  | commercialInvoice (id : Uuid)
deriving DecidableEq, Repr

inductive BooksSite where
  | nextNumber
  | createInvoiceDraft (invoiceId : Uuid)
  | updateInvoiceDraft (invoiceId : Uuid)
  | issueInvoice (invoiceId : Uuid)
  | markInvoiceSent (invoiceId : Uuid)
  | markInvoicePaid (invoiceId : Uuid) (payment : BillingInvoice) (converts : Bool)
  | cancelInvoice (invoiceId : Uuid)
  | sweepTrialAndInvoiceExpiry (overdue : List Uuid)
  | startTrial (businessId : Uuid)
  | extendTrial (businessId : Uuid)
deriving DecidableEq, Repr

abbrev BooksTxn := Txn Books BooksKey BooksSite Failure

abbrev Entry := BookTables → BookTables

def Books.write (f : Entry) (db : Books) : Except Failure Books :=
  if h : (f db.toBookTables).Valid then
    .ok { db with toBookTables := f db.toBookTables, valid := h }
  else .error .unhandled

def booksError {α : Type} (error : AppError) : BooksTxn α :=
  .fail (.app error)

def settle {α : Type} : Except AppError α → BooksTxn α
  | .ok a => pure a
  | .error error => booksError error

def booksNow : BooksTxn Instant :=
  .read Books.now

structure InvoicingSettings where
  legalName : String := ""
  tradingName : String := ""
  registrationNumber : String := ""
  address : String := ""
  contactEmail : String := ""
  contactPhone : String := ""
  bankName : String := ""
  bankAccountName : String := ""
  bankAccountNumber : String := ""
  bankBranchCode : String := ""
  bankAccountType : String := ""
  vatRegistered : Bool := false
  vatNumber : String := ""
  vatRateBps : Int := 1500
  paymentTermsDays : Nat := 7
  trialExpiryGraceDays : Nat
deriving DecidableEq, Repr

def requiredInvoicingConfigFields (settings : InvoicingSettings) : List (String × String) :=
  [("NEXTGEN_LEGAL_NAME", settings.legalName),
    ("NEXTGEN_ADDRESS", settings.address),
    ("NEXTGEN_CONTACT_EMAIL", settings.contactEmail),
    ("NEXTGEN_BANK_NAME", settings.bankName),
    ("NEXTGEN_BANK_ACCOUNT_NAME", settings.bankAccountName),
    ("NEXTGEN_BANK_ACCOUNT_NUMBER", settings.bankAccountNumber),
    ("NEXTGEN_BANK_BRANCH_CODE", settings.bankBranchCode)]

def getMissingInvoicingConfig (settings : InvoicingSettings) : List String :=
  let missing := ((requiredInvoicingConfigFields settings).filter fun field => field.2 = "").map
    Prod.fst
  if settings.vatRegistered ∧ settings.vatNumber = "" then missing ++ ["NEXTGEN_VAT_NUMBER"]
  else missing

def recomputeInvoiceTotals (settings : InvoicingSettings) (invoice : CommercialInvoice) :
    CommercialInvoice :=
  let subtotal : Cents := ((invoice.lines.map fun line => line.lineTotalCents).sum : Nat)
  let charged := settings.vatRegistered ∧ 0 < settings.vatRateBps
  let vatCents := if charged then
    Pricing.calculateVatCents subtotal settings.vatRateBps false else 0
  { invoice with
    vatRateBasisPoints := if charged then settings.vatRateBps else 0
    subtotalCents := subtotal
    vatCents := vatCents
    totalCents := subtotal + vatCents }

def getInvoiceForUpdate (invoiceId businessId : Uuid) : BooksTxn CommercialInvoice := do
  let row ← .lock (.commercialInvoice invoiceId) fun db =>
    (db.commercialInvoices.lookup invoiceId).filter fun invoice => invoice.businessId = businessId
  .orFail (.app (notFoundError "CommercialInvoice" (some invoiceId))) row

-- A sequence is outside the transaction: the number drawn is never given back.
def nextval (connection : Nat) : BooksTxn Nat := do
  .tell .nextNumber fun db =>
    { db with
      lastNumber := db.lastNumber + 1
      drawn := fun c => if c = connection then db.lastNumber + 1 else db.drawn c }
  .read fun db => db.drawn connection

def fiveDigits (n : Nat) : String :=
  let digits := toString n
  String.ofList (List.replicate (5 - digits.length) '0') ++ digits

def issuable (settings : InvoicingSettings) (invoice : CommercialInvoice) : Except AppError Unit :=
  if invoice.status ≠ .draft then
    .error ⟨"INVALID_INVOICE_STATE",
      s!"Only a DRAFT invoice can be issued (current status: {invoice.status.value})", 409, []⟩
  else if invoice.lines = [] then
    .error ⟨"INVOICE_HAS_NO_LINES", "Cannot issue an invoice with no line items", 422, []⟩
  else
    let missing := getMissingInvoicingConfig settings
    if missing ≠ [] then
      .error ⟨"INVOICING_NOT_CONFIGURED",
        "NextGen's invoicing details are not fully configured: " ++ ", ".intercalate missing, 409,
        [("missing", ", ".intercalate missing)]⟩
    else .ok ()

def customerSnapshotOf (business : Business) : CustomerSnapshot where
  name := business.name
  tradingName := business.name
  address := business.address
  phone := business.phone
  vatRegistered := business.vatRegistered
  vatNumber := business.vatNumber

def supplierSnapshotOf (settings : InvoicingSettings) : SupplierSnapshot where
  legalName := settings.legalName
  tradingName := settings.tradingName
  registrationNumber := settings.registrationNumber
  address := settings.address
  contactEmail := settings.contactEmail
  contactPhone := settings.contactPhone
  vatRegistered := settings.vatRegistered
  vatNumber := settings.vatNumber
  bankName := settings.bankName
  bankAccountName := settings.bankAccountName
  bankAccountNumber := settings.bankAccountNumber
  bankBranchCode := settings.bankBranchCode
  bankAccountType := settings.bankAccountType
  paymentTermsDays := settings.paymentTermsDays

def issueAs (settings : InvoicingSettings) (now : Instant) (number : Nat) (business : Business)
    (invoice : CommercialInvoice) : CommercialInvoice :=
  let invoice := recomputeInvoiceTotals settings invoice
  let year := (Time.dateOf (now / Time.day)).year
  { invoice with
    invoiceNumber := some (s!"NG-INV-{year}-" ++ fiveDigits number)
    invoiceDate := some (now / Time.day)
    dueDate := some ((now + settings.paymentTermsDays * Time.day) / Time.day)
    issuedAt := some now
    status := .awaitingPayment
    customerSnapshot := some (customerSnapshotOf business)
    supplierSnapshot := some (supplierSnapshotOf settings) }

def issueInvoice (settings : InvoicingSettings) (connection : Nat) (invoice : CommercialInvoice)
    (business : Business) : BooksTxn CommercialInvoice := do
  settle (issuable settings invoice)
  let now ← booksNow
  let number ← nextval connection
  pure (issueAs settings now number business invoice)

def markSent (now : Instant) (invoice : CommercialInvoice) : Except AppError CommercialInvoice :=
  if invoice.status ∉ [.awaitingPayment, .sent, .overdue] then
    .error ⟨"INVALID_INVOICE_STATE", s!"Cannot mark a {invoice.status.value} invoice as sent", 409,
      []⟩
  else .ok { invoice with status := .sent, sentAt := some now }

structure PaymentDetails where
  method : InvoicePaymentMethod
  reference : Option String
  note : Option String
  adminId : Uuid

def payable (invoice : CommercialInvoice) (details : PaymentDetails) : Except AppError Unit :=
  if invoice.status = .paid then
    .error ⟨"ALREADY_PAID", "This invoice has already been marked paid", 409, []⟩
  else if invoice.status ∉ unpaidIssuedStatuses then
    .error ⟨"INVALID_INVOICE_STATE",
      s!"Cannot mark a {invoice.status.value} invoice as paid — it must be issued first", 409, []⟩
  else if details.method = .eft ∧ details.reference.all (· = "") then
    .error ⟨"REFERENCE_REQUIRED", "A payment reference is required for an EFT payment", 422, []⟩
  else .ok ()

def payAs (now : Instant) (details : PaymentDetails) (invoice : CommercialInvoice) :
    CommercialInvoice :=
  { invoice with
    status := .paid
    paidAt := some now
    paymentMethod := some details.method
    paymentReference := details.reference
    paymentNote := details.note
    paidRecordedByAdminId := some details.adminId }

def paymentRow (now : Instant) (details : PaymentDetails) (business : Business)
    (invoice : CommercialInvoice) : BillingInvoice :=
  Billing.invoiceRow now business (some details.method.provider)
    ((details.reference.filter (· ≠ "")).or invoice.invoiceNumber) .paid invoice.totalCents

def convertBusiness (now : Instant) (converts : Bool) (business : Business) : Business :=
  let business := Billing.activate now business
  if converts then { business with convertedAt := some now } else business

def cancelInvoice (now : Instant) (reason : String) (isSuperAdmin : Bool)
    (invoice : CommercialInvoice) : Except AppError CommercialInvoice :=
  if invoice.status = .paid then
    .error ⟨"CANNOT_CANCEL_PAID", "A paid invoice cannot be cancelled", 409, []⟩
  else if invoice.status = .cancelled then
    .error ⟨"ALREADY_CANCELLED", "This invoice is already cancelled", 409, []⟩
  else if invoice.status ≠ .draft ∧ ¬ isSuperAdmin then
    .error ⟨"FORBIDDEN", "Only SUPER_ADMIN may cancel an issued invoice", 403, []⟩
  else .ok
    { invoice with
      status := .cancelled
      cancelledAt := some now
      cancelledReason := some reason }

def overwrite (invoice row : CommercialInvoice) : CommercialInvoice :=
  { invoice with id := row.id }

def setInvoice (invoice : CommercialInvoice) : Entry := fun t =>
  { t with commercialInvoices := t.commercialInvoices.modify invoice.id (overwrite invoice) }

def modifyBusiness (businessId : Uuid) (set : Business → Business) : Entry := fun t =>
  { t with businesses := t.businesses.modify businessId set }

def isOverdue (today : Day) (invoice : CommercialInvoice) : Bool :=
  invoice.status ∈ [.sent, .awaitingPayment] && invoice.dueDate.any fun due => due < today

def markOverdue (invoiceId : Uuid) : Entry := fun t =>
  { t with commercialInvoices := t.commercialInvoices.modify invoiceId fun invoice =>
      { invoice with status := .overdue } }

def onTrial (business : Business) : Bool :=
  business.billingStatus = .trial && business.isActive

def trialExpired (settings : InvoicingSettings) (now : Instant) (business : Business) : Bool :=
  business.trialEndsAt.any fun endsAt => endsAt + settings.trialExpiryGraceDays * Time.day < now

def suspendTrial (businessId : Uuid) : Entry :=
  modifyBusiness businessId fun business =>
    { business with isActive := false, suspendedReason := some "TRIAL_EXPIRED" }

def applyAll (entries : List Entry) : Entry := fun t =>
  entries.foldl (fun t f => f t) t

-- The sweep takes no row lock until its UPDATEs, which are those of the rows that it read.
def sweepTrialAndInvoiceExpiry (settings : InvoicingSettings) : BooksTxn Unit := do
  let onTrial ← .read fun db => db.businesses.filter onTrial
  let now ← booksNow
  let expired := (onTrial.filter (trialExpired settings now)).map (·.id)
  let today ← booksNow
  let overdue ← .read fun db =>
    (db.commercialInvoices.filter (isOverdue (today / Time.day))).map (·.id)
  if expired = [] ∧ overdue = [] then pure () else
    .save (.sweepTrialAndInvoiceExpiry overdue)
      (expired.map .business ++ overdue.map .commercialInvoice)
      (Books.write (applyAll (expired.map suspendTrial ++ overdue.map markOverdue)))

inductive AdminRole where
  | superAdmin | onboarder
deriving DecidableEq, Repr

structure AdminUser where
  userId : Uuid
  role : AdminRole
deriving DecidableEq, Repr

structure InvoiceLineIn where
  kind : InvoiceLineKind
  description : String
  quantity : Nat := 1
  unitAmountCents : Nat
  described : 1 ≤ description.length ∧ description.length ≤ 512
  counted : 1 ≤ quantity

def linesFromBody (lines : List InvoiceLineIn) : List CommercialInvoiceLine :=
  lines.zipIdx.map fun (line, i) =>
    { sortOrder := i
      kind := line.kind
      description := line.description
      quantity := line.quantity
      unitAmountCents := line.unitAmountCents
      lineTotalCents := line.unitAmountCents * line.quantity }

def getBusinessCommercialScoped (businessId : Uuid) (admin : AdminUser) : BooksTxn Business := do
  let row ← .read fun db => (db.businesses.lookup businessId).filter fun business =>
    admin.role ≠ .onboarder ∨ business.onboardedByAdminId = some admin.userId
  .orFail (.app (notFoundError "Business" (some businessId))) row

def authorizeInvoice (invoiceId : Uuid) (user : AdminUser) : BooksTxn Business := do
  let error : Failure := .app (notFoundError "CommercialInvoice" (some invoiceId))
  let row ← .read fun db => db.commercialInvoices.lookup invoiceId
  let invoice ← .orFail error row
  let business ← (getBusinessCommercialScoped invoice.businessId user).attempt
  .orFail error business.toOption

def saveInvoice (site : BooksSite) (invoice : CommercialInvoice) : BooksTxn Unit :=
  .save site [.commercialInvoice invoice.id] (Books.write (setInvoice invoice))

def refreshInvoice (invoiceId : Uuid) : BooksTxn CommercialInvoice := do
  let row ← .read fun db => db.commercialInvoices.lookup invoiceId
  .orFail .unhandled row

structure InvoiceDraftCreate where
  businessId : Uuid
  lines : List InvoiceLineIn := []
  internalNote : Option String := none

def createInvoiceDraft (settings : InvoicingSettings) (invoiceId : Uuid) (body : InvoiceDraftCreate)
    (user : AdminUser) : BooksTxn CommercialInvoice := do
  let _ ← getBusinessCommercialScoped body.businessId user
  let invoice := recomputeInvoiceTotals settings
    { id := invoiceId
      businessId := body.businessId
      internalNote := body.internalNote
      createdByAdminId := some user.userId
      lines := linesFromBody body.lines }
  .save (.createInvoiceDraft invoiceId) [.commercialInvoice invoiceId]
    (Books.write fun t => { t with commercialInvoices := t.commercialInvoices.insert invoice })
  refreshInvoice invoiceId

structure InvoiceDraftUpdate where
  lines : Option (List InvoiceLineIn) := none
  internalNote : Option String := none

def editDraft (settings : InvoicingSettings) (body : InvoiceDraftUpdate)
    (invoice : CommercialInvoice) : CommercialInvoice :=
  recomputeInvoiceTotals settings
    { invoice with
      lines := body.lines.elim invoice.lines linesFromBody
      internalNote := body.internalNote.or invoice.internalNote }

def updateInvoiceDraft (settings : InvoicingSettings) (invoiceId : Uuid) (body : InvoiceDraftUpdate)
    (user : AdminUser) : BooksTxn CommercialInvoice := do
  let business ← authorizeInvoice invoiceId user
  let invoice ← getInvoiceForUpdate invoiceId business.id
  if invoice.status ≠ .draft then
    booksError ⟨"INVALID_INVOICE_STATE", "Only a DRAFT invoice may be edited", 409, []⟩
  else do
    saveInvoice (.updateInvoiceDraft invoiceId) (editDraft settings body invoice)
    refreshInvoice invoiceId

def issueInvoiceRoute (settings : InvoicingSettings) (connection : Nat) (invoiceId : Uuid)
    (user : AdminUser) : BooksTxn CommercialInvoice := do
  let business ← authorizeInvoice invoiceId user
  let invoice ← getInvoiceForUpdate invoiceId business.id
  let invoice ← issueInvoice settings connection invoice business
  saveInvoice (.issueInvoice invoiceId) invoice
  refreshInvoice invoiceId

def markInvoiceSentRoute (invoiceId : Uuid) (user : AdminUser) : BooksTxn CommercialInvoice := do
  let business ← authorizeInvoice invoiceId user
  let invoice ← getInvoiceForUpdate invoiceId business.id
  let now ← booksNow
  let invoice ← settle (markSent now invoice)
  saveInvoice (.markInvoiceSent invoiceId) invoice
  refreshInvoice invoiceId

structure MarkPaidRequest where
  paymentMethod : InvoicePaymentMethod
  reference : Option String := none
  internalNote : Option String := none

def MarkPaidRequest.details (body : MarkPaidRequest) (user : AdminUser) : PaymentDetails where
  method := body.paymentMethod
  reference := body.reference
  note := body.internalNote
  adminId := user.userId

-- The invoice is paid under its lock, its business as it was read before the lock was taken.
def markInvoicePaidRoute (invoiceId : Uuid) (body : MarkPaidRequest) (user : AdminUser) :
    BooksTxn CommercialInvoice := do
  let business ← authorizeInvoice invoiceId user
  let invoice ← getInvoiceForUpdate invoiceId business.id
  settle (payable invoice (body.details user))
  let now ← booksNow
  let payment := paymentRow now (body.details user) business invoice
  let converts := business.convertedAt.isNone
  .save (.markInvoicePaid invoiceId payment converts)
    [.commercialInvoice invoiceId, .business business.id]
    (Books.write (applyAll
      [setInvoice (payAs now (body.details user) invoice),
        modifyBusiness business.id (convertBusiness now converts),
        fun t => { t with billingInvoices := t.billingInvoices ++ [payment] }]))
  refreshInvoice invoiceId

def cancelInvoiceRoute (invoiceId : Uuid) (reason : String) (user : AdminUser) :
    BooksTxn CommercialInvoice := do
  let business ← authorizeInvoice invoiceId user
  let invoice ← getInvoiceForUpdate invoiceId business.id
  let now ← booksNow
  let invoice ← settle (cancelInvoice now reason (user.role = .superAdmin) invoice)
  saveInvoice (.cancelInvoice invoiceId) invoice
  refreshInvoice invoiceId

end NextgenBackend.Invoicing
