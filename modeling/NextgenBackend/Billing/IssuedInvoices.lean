import NextgenBackend.Billing.CommercialInvoices

namespace NextgenBackend.Invoicing

open Txn RelyGuarantee Interleaving

inductive InvoicingRequest where
  | createInvoiceDraft (invoiceId : Uuid) (body : InvoiceDraftCreate) (user : AdminUser)
  | updateInvoiceDraft (invoiceId : Uuid) (body : InvoiceDraftUpdate) (user : AdminUser)
  | issueInvoice (invoiceId : Uuid) (user : AdminUser)
  | markInvoiceSent (invoiceId : Uuid) (user : AdminUser)
  | markInvoicePaid (invoiceId : Uuid) (body : MarkPaidRequest) (user : AdminUser)
  | cancelInvoice (invoiceId : Uuid) (reason : String) (user : AdminUser)
  | sweepTrialAndInvoiceExpiry

def answer (x : BooksTxn CommercialInvoice) : BooksTxn (Option CommercialInvoice) :=
  x.bind fun invoice => .done (some invoice)

def handle (settings : InvoicingSettings) (connection : Nat) :
    InvoicingRequest → BooksTxn (Option CommercialInvoice)
  | .createInvoiceDraft invoiceId body user =>
      answer (createInvoiceDraft settings invoiceId body user)
  | .updateInvoiceDraft invoiceId body user =>
      answer (updateInvoiceDraft settings invoiceId body user)
  | .issueInvoice invoiceId user => answer (issueInvoiceRoute settings connection invoiceId user)
  | .markInvoiceSent invoiceId user => answer (markInvoiceSentRoute invoiceId user)
  | .markInvoicePaid invoiceId body user => answer (markInvoicePaidRoute invoiceId body user)
  | .cancelInvoice invoiceId reason user => answer (cancelInvoiceRoute invoiceId reason user)
  | .sweepTrialAndInvoiceExpiry =>
      (sweepTrialAndInvoiceExpiry settings).bind fun _ => .done none

abbrev Clerks := Config Nat Books BooksKey BooksSite Failure (Option CommercialInvoice)

def opened (settings : InvoicingSettings) (request : Nat → InvoicingRequest) (db : Books) : Clerks :=
  start db fun connection => handle settings connection (request connection)

def isFinal (status : CommercialInvoiceStatus) : Bool :=
  status = .paid || status = .cancelled

structure InvoiceDocument where
  invoiceNumber : Option String
  invoiceDate : Option Day
  dueDate : Option Day
  currency : String
  subtotalCents : Cents
  vatCents : Cents
  vatRateBasisPoints : Int
  totalCents : Cents
  customerSnapshot : Option CustomerSnapshot
  supplierSnapshot : Option SupplierSnapshot
  issuedAt : Option Instant
  lines : List CommercialInvoiceLine
deriving DecidableEq

def CommercialInvoice.document (invoice : CommercialInvoice) : InvoiceDocument where
  invoiceNumber := invoice.invoiceNumber
  invoiceDate := invoice.invoiceDate
  dueDate := invoice.dueDate
  currency := invoice.currency
  subtotalCents := invoice.subtotalCents
  vatCents := invoice.vatCents
  vatRateBasisPoints := invoice.vatRateBasisPoints
  totalCents := invoice.totalCents
  customerSnapshot := invoice.customerSnapshot
  supplierSnapshot := invoice.supplierSnapshot
  issuedAt := invoice.issuedAt
  lines := invoice.lines

structure Succeeds (invoice invoice' : CommercialInvoice) : Prop where
  same : invoice'.id = invoice.id
  final : isFinal invoice.status → invoice'.status = invoice.status
  issued : invoice.status ≠ .draft → invoice'.status ≠ .draft
  document : invoice.status ≠ .draft → invoice'.document = invoice.document

def Evolves (t t' : BookTables) : Prop :=
  ∀ invoiceId invoice, t.commercialInvoices.lookup invoiceId = some invoice →
    ∃ invoice', t'.commercialInvoices.lookup invoiceId = some invoice' ∧ Succeeds invoice invoice'

def BooksSite.payment : BooksSite → Option (Uuid × BillingInvoice × Bool)
  | .markInvoicePaid invoiceId payment converts => some (invoiceId, payment, converts)
  | _ => none

-- The sweep overwrites no invoice that was paid or cancelled since it read it.
def Undisturbed : BooksSite → Books → Prop
  | .sweepTrialAndInvoiceExpiry overdue, db =>
      ∀ invoiceId ∈ overdue, ∀ invoice ∈ db.commercialInvoices.lookup invoiceId,
        isFinal invoice.status = false
  | _, _ => True

instance (site : BooksSite) (db : Books) : Decidable (Undisturbed site db) := by
  cases site <;> unfold Undisturbed <;> infer_instance

def isManual (row : BillingInvoice) : Bool :=
  row.provider = .eft || row.provider = .cash

-- Businesses and the payments of other providers are written elsewhere too.
structure InvoicingEnvironment (db db' : Books) : Prop where
  clock : db.now ≤ db'.now
  invoices : db'.commercialInvoices = db.commercialInvoices
  manual : db'.billingInvoices.filter isManual = db.billingInvoices.filter isManual

def paidIn (t : BookTables) (invoiceId : Uuid) : Prop :=
  ∃ invoice, t.commercialInvoices.lookup invoiceId = some invoice ∧ invoice.status = .paid

structure Records (site : BooksSite) (db db' : Books) : Prop where
  rows : db'.billingInvoices =
    db.billingInvoices ++ (site.payment.map fun payment => payment.2.1).toList
  manual : ∀ payment ∈ site.payment, isManual payment.2.1
  opened : ∀ payment ∈ site.payment, ¬ paidIn db.toBookTables payment.1
  paid : ∀ payment ∈ site.payment, paidIn db'.toBookTables payment.1

section Lemmas

variable {invoice invoice' : CommercialInvoice} {t t' t'' : BookTables} {db db' : Books}
  {invoiceId : Uuid}

theorem Succeeds.refl (invoice : CommercialInvoice) : Succeeds invoice invoice :=
  ⟨rfl, fun _ => rfl, id, fun _ => rfl⟩

theorem Succeeds.trans {invoice'' : CommercialInvoice} (h : Succeeds invoice invoice')
    (h' : Succeeds invoice' invoice'') : Succeeds invoice invoice'' := by
  constructor
  · exact h'.same.trans h.same
  · intro hfinal
    have hsame := h.final hfinal
    rw [h'.final (by rwa [hsame]), hsame]
  · intro hissued
    exact h'.issued (h.issued hissued)
  · intro hissued
    rw [h'.document (h.issued hissued), h.document hissued]

theorem succeeds_of_draft (hsame : invoice'.id = invoice.id) (h : invoice.status = .draft) :
    Succeeds invoice invoice' := by
  constructor <;> simp [hsame, h, isFinal]

theorem succeeds_of_open (hsame : invoice'.id = invoice.id)
    (hopen : isFinal invoice.status = false)
    (hissued : invoice.status ≠ .draft → invoice'.status ≠ .draft)
    (hdocument : invoice'.document = invoice.document) : Succeeds invoice invoice' :=
  ⟨hsame, fun hfinal => by simp [hopen] at hfinal, hissued, fun _ => hdocument⟩

theorem Evolves.refl (t : BookTables) : Evolves t t :=
  fun _ invoice h => ⟨invoice, h, .refl invoice⟩

theorem evolves_of_eq (h : t'.commercialInvoices = t.commercialInvoices) : Evolves t t' :=
  fun _ invoice hlookup => ⟨invoice, h ▸ hlookup, .refl invoice⟩

theorem Evolves.trans (h : Evolves t t') (h' : Evolves t' t'') : Evolves t t'' := by
  intro invoiceId invoice hlookup
  obtain ⟨invoice', hlookup', hsucceeds⟩ := h invoiceId invoice hlookup
  obtain ⟨invoice'', hlookup'', hsucceeds'⟩ := h' invoiceId invoice' hlookup'
  exact ⟨invoice'', hlookup'', hsucceeds.trans hsucceeds'⟩

theorem evolves_modify {set : CommercialInvoice → CommercialInvoice}
    (hkey : ∀ invoice, key (set invoice) = key invoice)
    (hset : ∀ invoice, t.commercialInvoices.lookup invoiceId = some invoice →
      Succeeds invoice (set invoice)) :
    Evolves t { t with commercialInvoices := t.commercialInvoices.modify invoiceId set } := by
  intro invoiceId' invoice hlookup
  dsimp only
  rw [Table.lookup_modify hkey]
  split
  next heq =>
    subst heq
    exact ⟨set invoice, by rw [hlookup]; rfl, hset invoice hlookup⟩
  next => exact ⟨invoice, hlookup, .refl invoice⟩

theorem succeeds_issueAs {settings : InvoicingSettings} {now : Instant} {number : Nat}
    {business : Business} (h : issuable settings invoice = .ok ()) :
    Succeeds invoice (issueAs settings now number business invoice) := by
  have hdraft : invoice.status = .draft := by
    by_contra hne
    simp [issuable, hne] at h
  exact succeeds_of_draft rfl hdraft

theorem succeeds_markSent {now : Instant} (h : markSent now invoice = .ok invoice') :
    Succeeds invoice invoice' := by
  unfold markSent at h
  split at h
  · cases h
  next hopen =>
    obtain rfl := Except.ok.inj h
    apply succeeds_of_open
    · rfl
    · cases hstatus : invoice.status <;> simp_all [isFinal]
    · simp
    · rfl

theorem payable_open {details : PaymentDetails} (h : payable invoice details = .ok ()) :
    invoice.status ∈ unpaidIssuedStatuses := by
  by_contra hne
  unfold payable at h
  split at h <;> simp_all

theorem succeeds_payAs {now : Instant} {details : PaymentDetails}
    (h : payable invoice details = .ok ()) : Succeeds invoice (payAs now details invoice) := by
  have hopen := payable_open h
  apply succeeds_of_open
  · rfl
  · cases hstatus : invoice.status <;> simp_all [isFinal, unpaidIssuedStatuses]
  · simp [payAs]
  · rfl

theorem succeeds_cancelInvoice {now : Instant} {reason : String} {isSuperAdmin : Bool}
    (h : cancelInvoice now reason isSuperAdmin invoice = .ok invoice') :
    Succeeds invoice invoice' := by
  unfold cancelInvoice at h
  split at h
  · cases h
  · split at h
    · cases h
    · split at h
      · cases h
      next hpaid hcancelled _ =>
        obtain rfl := Except.ok.inj h
        apply succeeds_of_open
        · rfl
        · simp [isFinal, hpaid, hcancelled]
        · simp
        · rfl

theorem isManual_paymentRow {now : Instant} {details : PaymentDetails} {business : Business} :
    isManual (paymentRow now details business invoice) = true := by
  unfold isManual paymentRow Billing.invoiceRow
  cases details.method <;> rfl

end Lemmas

def frozenBy (L : Set BooksKey) (t t' : BookTables) : Prop :=
  ∀ invoiceId, .commercialInvoice invoiceId ∈ L →
    t'.commercialInvoices.lookup invoiceId = t.commercialInvoices.lookup invoiceId

def discipline : Discipline Books BooksKey BooksSite where
  inv _ := True
  rely L db db' := frozenBy L db.toBookTables db'.toBookTables
  guar L db db' := Evolves db.toBookTables db'.toBookTables ∧
    frozenBy Lᶜ db.toBookTables db'.toBookTables
  admits := Undisturbed
  rely_refl _ _ _ _ := rfl
  rely_trans _ _ _ _ h h' invoiceId hkey := (h' invoiceId hkey).trans (h invoiceId hkey)
  rely_anti _ _ _ _ hsub h invoiceId hkey := h invoiceId (hsub hkey)
  guar_inv _ _ _ _ _ := trivial
  guar_rely _ _ _ _ hdisjoint _ h invoiceId hkey :=
    h.2 invoiceId fun hheld => Set.disjoint_left.mp hdisjoint hheld hkey

def Lawful {α : Type} (x : BooksTxn α) : Prop :=
  ∀ L db, Traces discipline Records L db x fun _ _ _ => True

section Handlers

variable {α β : Type} {L : Set BooksKey} {db : Books} {settings : InvoicingSettings}
  {invoiceId businessId connection : Nat} {user : AdminUser} {site : BooksSite}
  {invoice invoice' : CommercialInvoice}

theorem lawful_done (a : α) : Lawful (.done a : BooksTxn α) :=
  complies_done a

theorem lawful_bind {x : BooksTxn β} {f : β → BooksTxn α} (hx : Lawful x)
    (hf : ∀ b, Lawful (f b)) : Lawful (x.bind f) :=
  complies_bind hx hf

theorem lawful_readOnly {x : BooksTxn α} {R : α → Prop} (hx : x.ReadOnly R) : Lawful x :=
  complies_readOnly hx

theorem lawful_seq {x : BooksTxn β} {f : β → BooksTxn α} {R : β → Prop} (hx : x.ReadOnly R)
    (hf : ∀ b, R b → Lawful (f b)) : Lawful (x.bind f) :=
  complies_seq hx hf

theorem Books.write_ok {f : Entry} {db db' : Books} (h : db.write f = .ok db') :
    db'.toBookTables = f db.toBookTables := by
  unfold Books.write at h
  split at h
  next =>
    obtain rfl := Except.ok.inj h
    rfl
  next => cases h

theorem traces_write {keys : List BooksKey} {f : Entry}
    (h : ∀ db' db'' : Books, frozenBy L db.toBookTables db'.toBookTables → Undisturbed site db' →
      db''.toBookTables = f db'.toBookTables →
        discipline.guar (L ∪ {key | key ∈ keys}) db' db'' ∧ Records site db' db'') :
    Traces discipline Records L db (.save site keys (Books.write f) : BooksTxn Unit)
      fun _ _ _ => True := by
  refine traces_save.mpr fun db' _ hrely hadmits => ⟨fun db'' hwrite => ?_, fun _ _ => trivial⟩
  exact ⟨h db' db'' hrely hadmits (Books.write_ok hwrite), trivial⟩

theorem records_of_no_payment {db db' : Books} (hsite : site.payment = none)
    (hrows : db'.billingInvoices = db.billingInvoices) : Records site db db' := by
  constructor <;> simp [hsite, hrows]

theorem frozenBy_modify {t : BookTables} {set : CommercialInvoice → CommercialInvoice}
    (hkey : ∀ invoice, key (set invoice) = key invoice)
    (hheld : BooksKey.commercialInvoice invoiceId ∈ L) :
    frozenBy Lᶜ t
      { t with commercialInvoices := t.commercialInvoices.modify invoiceId set } := by
  intro invoiceId' hkey'
  apply Table.lookup_modify_ne hkey
  rintro rfl
  exact hkey' hheld

theorem getInvoiceForUpdate_lawful {f : CommercialInvoice → BooksTxn α}
    (h : ∀ L db invoice, BooksKey.commercialInvoice invoiceId ∈ L →
      db.commercialInvoices.lookup invoiceId = some invoice →
        Traces discipline Records L db (f invoice) fun _ _ _ => True) :
    Lawful ((getInvoiceForUpdate invoiceId businessId).bind f) := by
  intro L db db' _ _
  dsimp only
  cases hrow : (db'.commercialInvoices.lookup invoiceId).filter
      fun invoice => invoice.businessId = businessId with
  | none => trivial
  | some invoice =>
      obtain ⟨hlookup, -⟩ := Option.filter_eq_some_iff.mp hrow
      exact h _ db' invoice (Set.mem_insert _ _) hlookup

theorem key_overwrite (row : CommercialInvoice) : key (overwrite invoice row) = key row := rfl

theorem evolves_setInvoice {t : BookTables}
    (hlookup : t.commercialInvoices.lookup invoice'.id = some invoice)
    (hsucceeds : Succeeds invoice invoice') : Evolves t (setInvoice invoice' t) := by
  have hid : invoice.id = invoice'.id := Table.lookup_key hlookup
  apply evolves_modify key_overwrite
  intro row hrow
  obtain rfl := Option.some.inj (hlookup.symm.trans hrow)
  simpa only [overwrite, hid] using hsucceeds

theorem lookup_setInvoice {t : BookTables}
    (hlookup : t.commercialInvoices.lookup invoice'.id = some invoice) :
    (setInvoice invoice' t).commercialInvoices.lookup invoice'.id = some invoice' := by
  have hid : invoice.id = invoice'.id := Table.lookup_key hlookup
  unfold setInvoice
  rw [Table.lookup_modify_self key_overwrite, hlookup, Option.map_some, overwrite, hid]

theorem traces_saveInvoice (hsite : site.payment = none)
    (hheld : BooksKey.commercialInvoice invoiceId ∈ L)
    (hlookup : db.commercialInvoices.lookup invoiceId = some invoice)
    (hsucceeds : Succeeds invoice invoice') :
    Traces discipline Records L db (saveInvoice site invoice') fun _ _ _ => True := by
  obtain rfl : invoice'.id = invoiceId := hsucceeds.same.trans (Table.lookup_key hlookup)
  apply traces_write
  intro db' db'' hfrozen _ htables
  have hsame : db'.commercialInvoices.lookup invoice'.id = some invoice :=
    (hfrozen _ hheld).trans hlookup
  refine ⟨?_, records_of_no_payment hsite (by rw [htables]; rfl)⟩
  simp only [discipline, htables]
  exact ⟨evolves_setInvoice hsame hsucceeds, frozenBy_modify key_overwrite (.inl hheld)⟩

theorem readOnly_getBusinessCommercialScoped :
    (getBusinessCommercialScoped businessId user).ReadOnly fun _ => True :=
  fun _ => conforms_orFail fun _ _ => trivial

theorem readOnly_authorizeInvoice : (authorizeInvoice invoiceId user).ReadOnly fun _ => True := by
  intro db
  apply conforms_bind (conforms_orFail fun _ _ => trivial)
  intro invoice _
  have hscoped : (getBusinessCommercialScoped invoice.businessId user).attempt.ReadOnly
      fun _ => True :=
    conforms_attempt readOnly_getBusinessCommercialScoped (fun _ _ => trivial) fun _ => trivial
  apply conforms_bind hscoped
  intro business _
  exact conforms_orFail fun _ _ => trivial

theorem readOnly_booksNow : booksNow.ReadOnly fun _ => True :=
  fun _ => trivial

theorem readOnly_settle {result : Except AppError α} :
    (settle result).ReadOnly fun a => result = .ok a := by
  cases result with
  | ok a => rfl
  | error error => trivial

theorem refreshInvoice_lawful : Lawful (refreshInvoice invoiceId) :=
  lawful_readOnly (R := fun _ => True) fun _ => conforms_orFail fun _ _ => trivial

theorem traces_saveAndRefresh (hsite : site.payment = none)
    (hheld : BooksKey.commercialInvoice invoiceId ∈ L)
    (hlookup : db.commercialInvoices.lookup invoiceId = some invoice)
    (hsucceeds : Succeeds invoice invoice') :
    Traces discipline Records L db
      ((saveInvoice site invoice').bind fun _ => refreshInvoice invoiceId) fun _ _ _ => True := by
  apply traces_bind.mpr
  apply (traces_saveInvoice hsite hheld hlookup hsucceeds).mono
  intro r L' db' _
  cases r with
  | ok _ => exact refreshInvoice_lawful L' db'
  | error e => trivial

theorem createInvoiceDraft_lawful {body : InvoiceDraftCreate} :
    Lawful (createInvoiceDraft settings invoiceId body user) := by
  apply lawful_seq readOnly_getBusinessCommercialScoped
  intro business _
  apply lawful_bind
  · intro L db
    apply traces_write
    intro db' db'' _ _ htables
    refine ⟨?_, records_of_no_payment rfl (by rw [htables])⟩
    simp only [discipline, htables]
    constructor
    · intro invoiceId' invoice hlookup
      exact ⟨invoice, Table.lookup_insert_of_some hlookup, .refl invoice⟩
    · intro invoiceId' hkey
      apply Table.lookup_insert_ne
      rintro rfl
      exact hkey (.inr (List.mem_singleton.mpr rfl))
  · intro _
    exact refreshInvoice_lawful

theorem updateInvoiceDraft_lawful {body : InvoiceDraftUpdate} :
    Lawful (updateInvoiceDraft settings invoiceId body user) := by
  apply lawful_seq readOnly_authorizeInvoice
  intro business _
  apply getInvoiceForUpdate_lawful
  intro L db invoice hheld hlookup
  split
  · trivial
  next hdraft =>
    exact traces_saveAndRefresh rfl hheld hlookup (succeeds_of_draft rfl (not_not.mp hdraft))

theorem traces_nextval {f : Nat → BooksTxn α}
    (h : ∀ number db', frozenBy L db.toBookTables db'.toBookTables →
      Traces discipline Records L db' (f number) fun _ _ _ => True) :
    Traces discipline Records L db ((nextval connection).bind f) fun _ _ _ => True := by
  intro db' _ hrely _
  refine ⟨⟨⟨evolves_of_eq rfl, fun _ _ => rfl⟩, records_of_no_payment rfl rfl⟩, ?_⟩
  intro db'' _ hrely'
  exact h _ db'' fun invoiceId hkey => (hrely' invoiceId hkey).trans (hrely invoiceId hkey)

theorem issueInvoiceRoute_lawful :
    Lawful (issueInvoiceRoute settings connection invoiceId user) := by
  apply lawful_seq readOnly_authorizeInvoice
  intro business _
  apply getInvoiceForUpdate_lawful
  intro L db invoice hheld hlookup
  unfold issueInvoice
  simp only [bind_eq, bind_assoc]
  apply traces_seq readOnly_settle
  · intro _ L' db₁ hissuable hsub hrely db₂ _ hrely'
    apply traces_nextval
    intro number db₃ hfrozen
    have hlookup' : db₃.commercialInvoices.lookup invoiceId = some invoice := by
      rw [hfrozen invoiceId (hsub hheld), hrely' invoiceId (hsub hheld), hrely invoiceId hheld,
        hlookup]
    exact traces_saveAndRefresh rfl (hsub hheld) hlookup' (succeeds_issueAs hissuable)
  · intro e L' db' _ _
    trivial

theorem markInvoiceSentRoute_lawful : Lawful (markInvoiceSentRoute invoiceId user) := by
  apply lawful_seq readOnly_authorizeInvoice
  intro business _
  apply getInvoiceForUpdate_lawful
  intro L db invoice hheld hlookup db' _ hrely
  apply traces_seq readOnly_settle
  · intro invoice' L' db'' hsent hsub hrely'
    have hlookup' : db''.commercialInvoices.lookup invoiceId = some invoice := by
      rw [hrely' invoiceId hheld, hrely invoiceId hheld, hlookup]
    exact traces_saveAndRefresh rfl (hsub hheld) hlookup' (succeeds_markSent hsent)
  · intro e L' db'' _ _
    trivial

theorem cancelInvoiceRoute_lawful {reason : String} :
    Lawful (cancelInvoiceRoute invoiceId reason user) := by
  apply lawful_seq readOnly_authorizeInvoice
  intro business _
  apply getInvoiceForUpdate_lawful
  intro L db invoice hheld hlookup db' _ hrely
  apply traces_seq readOnly_settle
  · intro invoice' L' db'' hcancelled hsub hrely'
    have hlookup' : db''.commercialInvoices.lookup invoiceId = some invoice := by
      rw [hrely' invoiceId hheld, hrely invoiceId hheld, hlookup]
    exact traces_saveAndRefresh rfl (hsub hheld) hlookup' (succeeds_cancelInvoice hcancelled)
  · intro e L' db'' _ _
    trivial

def paymentEntries (now : Instant) (details : PaymentDetails) (business : Business)
    (invoice : CommercialInvoice) (payment : BillingInvoice) (converts : Bool) : List Entry :=
  [setInvoice (payAs now details invoice),
    modifyBusiness business.id (convertBusiness now converts),
    fun t => { t with billingInvoices := t.billingInvoices ++ [payment] }]

theorem traces_pay {now : Instant} {details : PaymentDetails} {business : Business}
    {payment : BillingInvoice} {converts : Bool} {keys : List BooksKey}
    (hheld : BooksKey.commercialInvoice invoice.id ∈ L)
    (hlookup : db.commercialInvoices.lookup invoice.id = some invoice)
    (hpayable : payable invoice details = .ok ()) (hmanual : isManual payment) :
    Traces discipline Records L db
      (.save (.markInvoicePaid invoice.id payment converts) keys
        (Books.write (applyAll (paymentEntries now details business invoice payment converts))) :
        BooksTxn Unit) fun _ _ _ => True := by
  apply traces_write
  intro db' db'' hfrozen _ htables
  have hrow : db'.commercialInvoices.lookup invoice.id = some invoice :=
    (hfrozen _ hheld).trans hlookup
  have hinvoices : db''.commercialInvoices =
      (setInvoice (payAs now details invoice) db'.toBookTables).commercialInvoices := by
    rw [htables]
    rfl
  have hevolves : Evolves db'.toBookTables
      (setInvoice (payAs now details invoice) db'.toBookTables) :=
    evolves_setInvoice hrow (succeeds_payAs hpayable)
  refine ⟨⟨hevolves.trans (evolves_of_eq hinvoices), fun invoiceId hkey => ?_⟩, ?_⟩
  · rw [hinvoices]
    exact frozenBy_modify (L := L) key_overwrite hheld invoiceId fun hheld' => hkey (.inl hheld')
  · have hpayment : BooksSite.payment (.markInvoicePaid invoice.id payment converts) =
        some (invoice.id, payment, converts) := rfl
    constructor
    · rw [htables]
      rfl
    · simpa [hpayment] using hmanual
    · rw [hpayment]
      rintro _ ⟨⟩ ⟨row, hrow', hpaid⟩
      obtain rfl := Option.some.inj (hrow.symm.trans hrow')
      have hopen := payable_open hpayable
      simp [hpaid, unpaidIssuedStatuses] at hopen
    · rw [hpayment]
      rintro _ ⟨⟩
      have hpaid : (setInvoice (payAs now details invoice) db'.toBookTables).commercialInvoices.lookup
          invoice.id = some (payAs now details invoice) := lookup_setInvoice hrow
      exact ⟨_, hinvoices ▸ hpaid, rfl⟩

theorem markInvoicePaidRoute_lawful {body : MarkPaidRequest} :
    Lawful (markInvoicePaidRoute invoiceId body user) := by
  apply lawful_seq readOnly_authorizeInvoice
  intro business _
  apply getInvoiceForUpdate_lawful
  intro L db invoice hheld hlookup
  obtain rfl : invoice.id = invoiceId := Table.lookup_key hlookup
  apply traces_seq readOnly_settle
  · intro _ L₁ db₁ hpayable hsub₁ hrely₁
    apply traces_seq readOnly_booksNow
    · intro now L₂ db₂ _ hsub₂ hrely₂
      have hheld₁ := hsub₁ hheld
      have hrow : db₂.commercialInvoices.lookup invoice.id = some invoice := by
        rw [hrely₂ _ hheld₁, hrely₁ _ hheld, hlookup]
      apply traces_bind.mpr
      apply (traces_pay (hsub₂ hheld₁) hrow hpayable isManual_paymentRow).mono
      intro r L₃ db₃ _
      cases r with
      | ok _ => exact refreshInvoice_lawful L₃ db₃
      | error e => trivial
    · intro e L₂ db₂ _ _
      trivial
  · intro e L₁ db₁ _ _
    trivial

theorem applyAll_keeps {γ : Type} (view : BookTables → γ) {entries : List Entry}
    {t : BookTables} (h : ∀ f ∈ entries, ∀ t, view (f t) = view t) : view (applyAll entries t) = view t := by
  induction entries generalizing t with
  | nil => rfl
  | cons f entries ih =>
      have hrest := ih (t := f t) fun g hg => h g (by simp [hg])
      exact hrest.trans (h f (by simp) t)

theorem applyAll_append {entries entries' : List Entry} {t : BookTables} :
    applyAll (entries ++ entries') t = applyAll entries' (applyAll entries t) := by
  simp [applyAll]

theorem key_markOverdue (row : CommercialInvoice) :
    key { row with status := .overdue } = key row := rfl

theorem evolves_markOverdue {overdue : List Uuid} {t : BookTables}
    (h : ∀ invoiceId ∈ overdue, ∀ invoice ∈ t.commercialInvoices.lookup invoiceId,
      isFinal invoice.status = false) : Evolves t (applyAll (overdue.map markOverdue) t) := by
  induction overdue generalizing t with
  | nil => exact .refl t
  | cons invoiceId overdue ih =>
      have hfirst : Evolves t (markOverdue invoiceId t) := by
        apply evolves_modify key_markOverdue
        intro invoice hlookup
        apply succeeds_of_open
        · rfl
        · exact h invoiceId (by simp) invoice hlookup
        · simp
        · rfl
      apply hfirst.trans
      apply ih
      intro invoiceId' hmem invoice hlookup
      unfold markOverdue at hlookup
      rw [Table.lookup_modify key_markOverdue] at hlookup
      split at hlookup
      · obtain ⟨row, -, rfl⟩ := Option.map_eq_some_iff.mp hlookup
        rfl
      · exact h invoiceId' (by simp [hmem]) invoice hlookup

theorem frozenBy_markOverdue {overdue : List Uuid} {t : BookTables}
    (h : ∀ invoiceId ∈ overdue, BooksKey.commercialInvoice invoiceId ∈ L) :
    frozenBy Lᶜ t (applyAll (overdue.map markOverdue) t) := by
  induction overdue generalizing t with
  | nil => exact fun _ _ => rfl
  | cons invoiceId overdue ih =>
      intro invoiceId' hkey
      have hrest := ih (t := markOverdue invoiceId t) fun id hid => h id (by simp [hid])
      have hfirst : frozenBy Lᶜ t (markOverdue invoiceId t) :=
        frozenBy_modify key_markOverdue (h invoiceId (by simp))
      exact (hrest invoiceId' hkey).trans (hfirst invoiceId' hkey)

theorem sweepTrialAndInvoiceExpiry_lawful : Lawful (sweepTrialAndInvoiceExpiry settings) := by
  have hread {γ : Type} {q : Books → γ} : (Txn.read q : BooksTxn γ).ReadOnly fun _ => True :=
    fun _ => trivial
  apply lawful_seq hread
  intro trials _
  apply lawful_seq readOnly_booksNow
  intro now _
  apply lawful_seq readOnly_booksNow
  intro today _
  apply lawful_seq hread
  intro overdue _
  split
  · exact lawful_done _
  · intro L db
    apply traces_write
    intro db' db'' _ hadmits htables
    generalize (trials.filter (trialExpired settings now)).map (·.id) = expired at htables
    have hrows : db''.billingInvoices = db'.billingInvoices := by
      rw [htables]
      apply applyAll_keeps BookTables.billingInvoices
      simp only [List.mem_append, List.mem_map]
      rintro f (⟨_, _, rfl⟩ | ⟨_, _, rfl⟩) t <;> rfl
    have hsuspended : (applyAll (expired.map suspendTrial) db'.toBookTables).commercialInvoices =
        db'.commercialInvoices := by
      apply applyAll_keeps BookTables.commercialInvoices
      simp only [List.mem_map]
      rintro f ⟨_, _, rfl⟩ t
      rfl
    rw [applyAll_append] at htables
    generalize applyAll (expired.map suspendTrial) db'.toBookTables = t at hsuspended htables
    refine ⟨?_, records_of_no_payment rfl hrows⟩
    · simp only [discipline, htables]
      constructor
      · apply (evolves_of_eq hsuspended).trans
        apply evolves_markOverdue
        rw [hsuspended]
        exact hadmits
      · intro invoiceId hkey
        rw [← hsuspended]
        refine frozenBy_markOverdue (fun invoiceId hmem => ?_) invoiceId hkey
        exact .inr (List.mem_append_right _ (List.mem_map_of_mem hmem))

end Handlers

def paymentsIn (log : List (Nat × BooksSite)) : List (Uuid × BillingInvoice × Bool) :=
  log.filterMap fun entry => entry.2.payment

def paymentsOf (invoiceId : Uuid) (log : List (Nat × BooksSite)) :
    List (Uuid × BillingInvoice × Bool) :=
  (paymentsIn log).filter fun payment => payment.1 = invoiceId

structure Recorded (before : Books) (db : Books) (log : List (Nat × BooksSite)) : Prop where
  rows : db.billingInvoices.filter isManual =
    before.billingInvoices.filter isManual ++ (paymentsIn log).map fun payment => payment.2.1
  once : ∀ invoiceId, (paymentsOf invoiceId log).length ≤ 1
  paid : ∀ invoiceId, paymentsOf invoiceId log ≠ [] → paidIn db.toBookTables invoiceId

-- What the invoices of one state tell about those of a later one.
structure InvoiceLaw (before : Books) (c c' : Clerks) : Prop where
  final : ∀ invoiceId invoice, c.db.commercialInvoices.lookup invoiceId = some invoice →
    isFinal invoice.status →
      (c'.db.commercialInvoices.lookup invoiceId).map (·.status) = some invoice.status
  frozen : ∀ invoiceId invoice, c.db.commercialInvoices.lookup invoiceId = some invoice →
    invoice.status ≠ .draft →
      (c'.db.commercialInvoices.lookup invoiceId).map (·.document) = some invoice.document
  numbers : c'.db.commercialInvoices.Unique fun invoice => invoice.invoiceNumber
  payments : c'.db.billingInvoices.filter isManual =
    before.billingInvoices.filter isManual ++ (paymentsIn c'.log).map fun payment => payment.2.1
  paidOnce : ∀ invoiceId, (paymentsOf invoiceId c'.log).length ≤ 1
  convertedOnce : ∀ invoiceId,
    ((paymentsOf invoiceId c'.log).filter fun payment => payment.2.2).length ≤ 1

def undisturbed (c : Clerks) (i : Nat) : Prop :=
  c.Meets Undisturbed i

instance (c : Clerks) (i : Nat) : Decidable (undisturbed c i) :=
  inferInstanceAs (Decidable (c.Meets Undisturbed i))

section Runs

variable {settings : InvoicingSettings} {request : Nat → InvoicingRequest} {before db db' : Books}
  {log : List (Nat × BooksSite)} {i : Nat} {site : BooksSite} {c c' : Clerks}
  {L : Set BooksKey} {invoiceId : Uuid}

theorem answer_lawful {x : BooksTxn CommercialInvoice} (hx : Lawful x) : Lawful (answer x) :=
  lawful_bind hx fun _ => lawful_done _

theorem handle_lawful (connection : Nat) (request : InvoicingRequest) :
    Lawful (handle settings connection request) := by
  cases request with
  | createInvoiceDraft invoiceId body user => exact answer_lawful createInvoiceDraft_lawful
  | updateInvoiceDraft invoiceId body user => exact answer_lawful updateInvoiceDraft_lawful
  | issueInvoice invoiceId user => exact answer_lawful issueInvoiceRoute_lawful
  | markInvoiceSent invoiceId user => exact answer_lawful markInvoiceSentRoute_lawful
  | markInvoicePaid invoiceId body user => exact answer_lawful markInvoicePaidRoute_lawful
  | cancelInvoice invoiceId reason user => exact answer_lawful cancelInvoiceRoute_lawful
  | sweepTrialAndInvoiceExpiry =>
      exact lawful_bind sweepTrialAndInvoiceExpiry_lawful fun _ => lawful_done _

theorem opened_traced : Traced discipline Records (fun _ _ => True) (opened settings request db) :=
  traced_start trivial fun i => handle_lawful i (request i) ∅ db

theorem environment_respects : discipline.Respects InvoicingEnvironment := by
  intro db db' _ henv
  refine ⟨trivial, fun L invoiceId _ => ?_⟩
  rw [henv.invoices]

theorem paidIn_evolves {t t' : BookTables} (h : Evolves t t') (hpaid : paidIn t invoiceId) :
    paidIn t' invoiceId := by
  obtain ⟨invoice, hlookup, hstatus⟩ := hpaid
  obtain ⟨invoice', hlookup', hsucceeds⟩ := h invoiceId invoice hlookup
  exact ⟨invoice', hlookup', (hsucceeds.final (by simp [isFinal, hstatus])).trans hstatus⟩

theorem paymentsIn_append : paymentsIn (log ++ [(i, site)]) =
    paymentsIn log ++ site.payment.toList := by
  unfold paymentsIn
  rw [List.filterMap_append]
  cases hpayment : site.payment <;> simp [hpayment]

theorem recorded_start : Recorded before before [] := by
  constructor <;> simp [paymentsIn, paymentsOf]

theorem Recorded.commit (h : Recorded before db log) (hguar : discipline.guar L db db')
    (hrecords : Records site db db') : Recorded before db' (log ++ [(i, site)]) := by
  have hkeeps (invoiceId : Uuid) (hpaid : paidIn db.toBookTables invoiceId) :
      paidIn db'.toBookTables invoiceId := paidIn_evolves hguar.1 hpaid
  cases hpayment : site.payment with
  | none =>
      have hlog : paymentsIn (log ++ [(i, site)]) = paymentsIn log := by
        simp [paymentsIn_append, hpayment]
      have hrows : db'.billingInvoices = db.billingInvoices := by
        simpa [hpayment] using hrecords.rows
      constructor
      · rw [hrows, hlog, h.rows]
      · simpa only [paymentsOf, hlog] using h.once
      · intro invoiceId hne
        apply hkeeps
        apply h.paid
        simpa only [paymentsOf, hlog] using hne
  | some payment =>
      have hlog : paymentsIn (log ++ [(i, site)]) = paymentsIn log ++ [payment] := by
        simp [paymentsIn_append, hpayment]
      have hopened := hrecords.opened payment hpayment
      have hnone : paymentsOf payment.1 log = [] := by
        by_contra hne
        exact hopened (h.paid payment.1 hne)
      have hmanual := hrecords.manual payment hpayment
      constructor
      · rw [hrecords.rows, hlog, List.filter_append, h.rows]
        simp [hpayment, hmanual]
      · intro invoiceId
        unfold paymentsOf
        rw [hlog, List.filter_append]
        by_cases heq : payment.1 = invoiceId
        · subst heq
          have hempty : (paymentsIn log).filter (fun p => p.1 = payment.1) = [] := hnone
          simp [hempty]
        · simpa [heq, paymentsOf] using h.once invoiceId
      · intro invoiceId hne
        by_cases heq : payment.1 = invoiceId
        · subst heq
          exact hrecords.paid payment hpayment
        · apply hkeeps
          apply h.paid
          simpa [paymentsOf, hlog, heq] using hne

theorem Recorded.environment (h : Recorded before db log) (henv : InvoicingEnvironment db db') :
    Recorded before db' log := by
  constructor
  · rw [henv.manual, h.rows]
  · exact h.once
  · intro invoiceId hne
    unfold paidIn
    rw [henv.invoices]
    exact h.paid invoiceId hne

theorem books_reachable (hreach : Reachable InvoicingEnvironment undisturbed
    (opened settings request before) c) :
    Traced discipline Records (fun _ _ => True) c ∧ Recorded before c.db c.log := by
  refine traced_reachable (p := fun _ _ _ => True) ?_ ?_ environment_respects ?_ opened_traced
    recorded_start hreach
  · intro i site L db db' log _ _ hguar hrecords hI
    exact hI.commit hguar hrecords
  · intro db db' log _ henv hI
    exact hI.environment henv
  · intro c i hi
    exact ⟨hi, meets_of_forall (fun _ _ => trivial) c i⟩

theorem books_evolve (h : Traced discipline Records (fun _ _ => True) c)
    (hreach : Reachable InvoicingEnvironment undisturbed c c') :
    Evolves c.db.toBookTables c'.db.toBookTables := by
  refine (traced_reachable (I := fun db _ => Evolves c.db.toBookTables db.toBookTables)
    (p := fun _ _ _ => True) ?_ ?_ environment_respects ?_ h (.refl _) hreach).2
  · intro i site L db db' log _ _ hguar _ hI
    exact hI.trans hguar.1
  · intro db db' log _ henv hI
    exact hI.trans (evolves_of_eq henv.invoices)
  · intro c i hi
    exact ⟨hi, meets_of_forall (fun _ _ => trivial) c i⟩

theorem commercial_invoices_lawful (settings : InvoicingSettings)
    (request : Nat → InvoicingRequest) (before : Books) (c c' : Clerks)
    (hreach : Reachable InvoicingEnvironment undisturbed (opened settings request before) c)
    (hreach' : Reachable InvoicingEnvironment undisturbed c c') : InvoiceLaw before c c' := by
  obtain ⟨htraced, -⟩ := books_reachable hreach
  obtain ⟨-, hrecorded⟩ := books_reachable (hreach.trans hreach')
  have hevolves := books_evolve htraced hreach'
  constructor
  · intro invoiceId invoice hlookup hfinal
    obtain ⟨invoice', hlookup', hsucceeds⟩ := hevolves invoiceId invoice hlookup
    rw [hlookup', Option.map_some, hsucceeds.final hfinal]
  · intro invoiceId invoice hlookup hissued
    obtain ⟨invoice', hlookup', hsucceeds⟩ := hevolves invoiceId invoice hlookup
    rw [hlookup', Option.map_some, hsucceeds.document hissued]
  · exact c'.db.valid.numbers
  · exact hrecorded.rows
  · exact hrecorded.once
  · intro invoiceId
    exact (List.length_filter_le _ _).trans (hrecorded.once invoiceId)

end Runs

def settings : InvoicingSettings where
  legalName := "NextGen (Pty) Ltd"
  address := "1 Long Street"
  contactEmail := "accounts@nextgen.test"
  bankName := "Bank"
  bankAccountName := "NextGen"
  bankAccountNumber := "123456789"
  bankBranchCode := "250655"
  trialExpiryGraceDays := 3

def partner : AdminUser where
  userId := 900
  role := .superAdmin

def sentInvoice : CommercialInvoice where
  id := 1
  businessId := 10
  invoiceNumber := some "NG-INV-2026-00001"
  status := .sent
  dueDate := some 20000
  totalCents := 49900
  subtotalCents := 49900
  issuedAt := some (19990 * Time.day)
  lines := [⟨0, .subscription, "Monthly subscription", 1, 49900, 49900⟩]

def overdueBooks : Books where
  businesses := [{ id := 10 }]
  commercialInvoices := [sentInvoice]
  now := 20001 * Time.day
  lastNumber := 1
  valid := by decide +kernel

def byCash : InvoicingRequest :=
  .markInvoicePaid 1 { paymentMethod := .cash } partner

def sweepBetweenPayments : Nat → InvoicingRequest
  | 0 => .sweepTrialAndInvoiceExpiry
  | _ => byCash

-- The sweep reads the invoice, one request pays it, the sweep writes, another request pays it again.
def paidAroundSweep : List Nat :=
  [0, 0, 0, 0] ++ List.replicate 6 1 ++ [0] ++ List.replicate 6 2

-- Both requests read the invoice before either holds its lock.
def sweptThenPaid : List Nat :=
  [0, 0, 0, 0, 0, 1, 1, 2, 2, 1, 1, 1, 2, 2]

def freely (_ : Clerks) (_ : Nat) : Prop := True

instance (c : Clerks) (i : Nat) : Decidable (freely c i) :=
  inferInstanceAs (Decidable True)

theorem swept_then_paid_once : ∃ c,
    Reachable InvoicingEnvironment undisturbed (opened settings sweepBetweenPayments overdueBooks) c ∧
    c.db.billingInvoices.length = 1 ∧
    InvoiceLaw overdueBooks (opened settings sweepBetweenPayments overdueBooks) c := by
  have hrun : ((opened settings sweepBetweenPayments overdueBooks).schedule undisturbed
      sweptThenPaid).any fun c => c.db.billingInvoices.length = 1 := by decide +kernel
  obtain ⟨c, hc, hrows⟩ := (Option.any_eq_true _ _).mp hrun
  have hreach : Reachable InvoicingEnvironment undisturbed
      (opened settings sweepBetweenPayments overdueBooks) c := schedule_reachable hc
  exact ⟨c, hreach, by simpa using hrows,
    commercial_invoices_lawful settings sweepBetweenPayments overdueBooks _ c .refl hreach⟩

theorem sweep_reopens_paid_invoice : ∃ c,
    Reachable InvoicingEnvironment freely (opened settings sweepBetweenPayments overdueBooks) c ∧
    (paymentsOf 1 c.log).length = 2 ∧
    ¬ InvoiceLaw overdueBooks (opened settings sweepBetweenPayments overdueBooks) c := by
  have hrun : ((opened settings sweepBetweenPayments overdueBooks).schedule freely
      paidAroundSweep).any fun c => (paymentsOf 1 c.log).length = 2 := by decide +kernel
  obtain ⟨c, hc, hpayments⟩ := (Option.any_eq_true _ _).mp hrun
  have htwice : (paymentsOf 1 c.log).length = 2 := by simpa using hpayments
  refine ⟨c, schedule_reachable hc, htwice, fun hlaw => ?_⟩
  have honce := hlaw.paidOnce 1
  omega

end NextgenBackend.Invoicing
