import NextgenBackend.Billing.System

namespace NextgenBackend.Settlement

open Txn Billing

def isAbout (businessId : Uuid) (event : StripeEvent) (t : Tables) : Prop :=
  ∃ business ∈ foundBy event t, business.id = businessId

-- The step processes an invoice.paid of the invoice, which is the business's.
def Pays (settings : BillingSettings) (reference : String) (businessId : Uuid) (db : Database)
    (event : BillingEvent) : Prop :=
  ∃ request data, event = .webhook request (.ok ()) ∧
    trustedEvent settings request = .ok (.invoicePaid data) ∧ given data.id = some reference ∧
      isAbout businessId (.invoicePaid data) db.toTables

def isPaidFor (reference : String) (businessId : Uuid) (row : BillingInvoice) : Prop :=
  row.provider = .stripe ∧ row.providerReference = some reference ∧ row.businessId = businessId ∧
    row.status = .paid

def supersedes (paidAt : Instant) : StripeEvent → Prop
  | .subscriptionUpdated _ | .subscriptionDeleted _ => True
  | .invoicePaymentFailed data => ∃ created ∈ data.created, paidAt ≤ created
  | _ => False

-- A later invoice fails, the subscription changes, or the business's billing is edited elsewhere.
def Overrides (settings : BillingSettings) (businessId : Uuid) (paidAt : Instant) (db : Database)
    (event : BillingEvent) (db' : Database) : Prop :=
  (∃ stripe ∈ delivered settings event, isAbout businessId stripe db.toTables ∧
    supersedes paidAt stripe) ∨
  (match event with
    | .elsewhere => billingOf businessId db'.toTables ≠ billingOf businessId db.toTables
    | _ => False)

structure Settled (settings : BillingSettings) (reference : String) (businessId : Uuid)
    (db : Database) : Prop where
  invoice : ∃ row ∈ db.billingInvoices, isPaidFor reference businessId row
  replay : ∀ request data, trustedEvent settings request = .ok (.invoicePaid data) →
    given data.id = some reference → ((stripeWebhook settings request).run db).2 = db

def InGoodStanding (businessId : Uuid) (db : Database) : Prop :=
  ∃ business, db.businesses.lookup businessId = some business ∧
    business.billingStatus = .active ∧ business.isActive = true

-- Whenever an invoice's payment is first processed, the run keeps it settled ever after.
def KeepsSettled (settings : BillingSettings) (db₀ : Database)
    (steps : List (BillingEvent × Database)) : Prop :=
  ∀ reference businessId taken event db rest, taken ++ (event, db) :: rest <+: steps →
    Pays settings reference businessId (Run.last db₀ taken) event →
    Run.Along (fun db event _ => ∀ businessId, ¬ Pays settings reference businessId db event)
      db₀ taken →
    Settled settings reference businessId (Run.last db rest) ∧
      (Run.Along (fun db event db' =>
          ¬ Overrides settings businessId (Run.last db₀ taken).now db event db') db rest →
        InGoodStanding businessId (Run.last db rest))

def isSettled (business : Business) (t : Tables) : Prop :=
  business.billingStatus = .active ∧ business.isActive = true ∧
    ∃ row ∈ t.billingInvoices, row.provider = .stripe ∧ row.businessId = business.id ∧
      row.status = .paid

-- No failure is on record for an invoice that is paid, its amount is told, and so is the time of
-- an invoice whose payment fails while the business is settled.
def Meets (settings : BillingSettings) (db : Database) (event : BillingEvent) (_ : Database) :
    Prop :=
  ∀ stripe ∈ delivered settings event, ∀ business ∈ foundBy stripe db.toTables,
    match stripe with
    | .invoicePaid data => ∀ reference ∈ given data.id,
        (∀ row ∈ recorded .stripe reference db.toTables, row.status = .paid) ∧
          (recorded .stripe reference db.toTables = [] → data.amountPaid.isSome)
    | .invoicePaymentFailed data => recordedFor data.id db.toTables = [] →
        isSettled business db.toTables → data.created.isSome
    | _ => True

section Steps

variable {settings : BillingSettings} {db db' : Database} {event : BillingEvent}
  {stripe : StripeEvent} {reply : Except Failure Unit} {request : StripeRequest}
  {data : StripeInvoice} {reference : String} {businessId : Uuid} {row : BillingInvoice}
  {paidAt : Instant}

theorem recordedFor_given (h : given data.id = some reference) (t : Tables) :
    recordedFor data.id t = recorded .stripe reference t := by
  simp [recordedFor, h]

theorem given_eq_some {text : Option String} (h : given text = some reference) :
    text = some reference :=
  (Option.filter_eq_some_iff.mp h).1

theorem mem_recorded {t : Tables} : row ∈ recorded .stripe reference t ↔
    row ∈ t.billingInvoices ∧ row.provider = .stripe ∧ row.providerReference = some reference := by
  simp [recorded]

theorem stripe_invoice_kept (h : NextBilling settings db event db') (hstripe : row.provider = .stripe)
    (hrow : row ∈ db.billingInvoices) : row ∈ db'.billingInvoices := by
  cases event with
  | webhook request reply =>
      obtain rfl | ⟨stripe, -, hhandled⟩ := webhook_cases h
      · exact hrow
      · cases hhandled with
        | failed e => exact hrow
        | ignored _ => exact hrow
        | charged business _ _ _ hcharges =>
            rw [hcharges.invoices]
            exact List.mem_append_left _ hrow
  | sweep =>
      have hswept : Swept db db' := h ▸ suspendPastDueBusinesses_swept db
      rw [hswept.invoices]
      exact hrow
  | elsewhere => exact (h.invoices row hstripe).mpr hrow

theorem outcome_paid {now : Instant} {business : Business}
    (h : (outcome now business stripe).invoice = some row) (hpaid : row.status = .paid) :
    ∃ data, stripe = .invoicePaid data ∧ row.providerReference = data.id := by
  cases stripe with
  | invoicePaid data =>
      obtain ⟨amount, -, rfl⟩ := Option.map_eq_some_iff.mp h
      exact ⟨data, rfl, rfl⟩
  | invoicePaymentFailed data =>
      by_cases hstale : isStale business data.created
      · simp [outcome, hstale] at h
      · simp only [outcome, hstale] at h
        obtain ⟨amount, -, rfl⟩ := Option.map_eq_some_iff.mp h
        cases hpaid
  | subscriptionUpdated data => cases h
  | subscriptionDeleted data => cases h
  | other type => cases h

theorem paid_invoice_new (h : NextBilling settings db event db') (hne : reference ≠ "")
    (hstripe : row.provider = .stripe) (hreference : row.providerReference = some reference)
    (hpaid : row.status = .paid) (hrow : row ∈ db'.billingInvoices) :
    row ∈ db.billingInvoices ∨ ∃ businessId, Pays settings reference businessId db event := by
  cases event with
  | webhook request reply =>
      obtain rfl | ⟨stripe, htrusted, hhandled⟩ := webhook_cases h
      · exact .inl hrow
      · cases hhandled with
        | failed e => exact .inl hrow
        | ignored _ => exact .inl hrow
        | charged business _ hfound _ hcharges =>
            rw [hcharges.invoices] at hrow
            obtain hold | hnew := List.mem_append.mp hrow
            · exact .inl hold
            · obtain ⟨data, rfl, hid⟩ := outcome_paid (Option.mem_toList.mp hnew) hpaid
              have hgiven : given data.id = some reference := by
                rw [← hid, hreference]
                simp [given, hne]
              exact .inr ⟨business.id, request, data, rfl, htrusted, hgiven, business, hfound, rfl⟩
  | sweep =>
      have hswept : Swept db db' := h ▸ suspendPastDueBusinesses_swept db
      rw [hswept.invoices] at hrow
      exact .inl hrow
  | elsewhere => exact .inl ((h.invoices row hstripe).mp hrow)

theorem foundBy_lookup {business : Business} (h : foundBy stripe db.toTables = some business) :
    db.businesses.lookup business.id = some business := by
  have hmem (customer subscription : Option String)
      (h : findBusinessByStripe customer subscription db.toTables = some business) :
      business ∈ db.businesses := by
    unfold findBusinessByStripe at h
    obtain h | ⟨-, h⟩ := Option.or_eq_some_iff.mp h <;>
    · obtain ⟨_, -, h⟩ := Option.bind_eq_some_iff.mp h
      exact List.mem_of_find?_eq_some h
  apply Table.lookup_of_mem (db.valid .businessesPkey)
  cases stripe with
  | subscriptionUpdated data => exact hmem _ _ h
  | invoicePaid data => exact hmem _ _ h
  | invoicePaymentFailed data => exact hmem _ _ h
  | subscriptionDeleted data => exact hmem _ _ h
  | other type => cases h

theorem outcome_key {now : Instant} {business : Business} (b : Business) :
    key ((outcome now business stripe).set b) = key b := by
  cases stripe with
  | subscriptionUpdated data =>
      change key ((statusOf data.status).elim id applyStatus b) = key b
      cases statusOf data.status with
      | none => rfl
      | some status => cases status <;> rfl
  | invoicePaid data => rfl
  | invoicePaymentFailed data =>
      by_cases hstale : isStale business data.created <;> simp [outcome, hstale, key]
  | subscriptionDeleted data => rfl
  | other type => rfl

theorem charges_lookup {now : Instant} {business : Business}
    (h : Charges (outcome now business stripe) business.id db db')
    (hfound : foundBy stripe db.toTables = some business) :
    db'.businesses.lookup business.id = some ((outcome now business stripe).set business) := by
  rw [h.businesses, Table.lookup_modify_self outcome_key, foundBy_lookup hfound]
  rfl

theorem first_payment (h : NextBilling settings db event db')
    (hmeets : Meets settings db event db') (hpays : Pays settings reference businessId db event)
    (hnone : ∀ row ∈ recorded .stripe reference db.toTables, row.status ≠ .paid) :
    (∃ row ∈ db'.billingInvoices, isPaidFor reference businessId row) ∧
      ∃ business, db'.businesses.lookup businessId = some business ∧
        billing business = (.active, true, db.now) := by
  obtain ⟨request, data, rfl, htrusted, hgiven, business, hfound, rfl⟩ := hpays
  have hdelivered : .invoicePaid data ∈ delivered settings (.webhook request (.ok ())) := by
    simp [delivered, htrusted, Except.toOption]
  obtain ⟨hpaid, hamount⟩ := hmeets _ hdelivered business hfound reference hgiven
  have hempty : recorded .stripe reference db.toTables = [] :=
    List.eq_nil_iff_forall_not_mem.mpr fun row hrow => hnone row hrow (hpaid row hrow)
  obtain ⟨amount, hamount⟩ := Option.isSome_iff_exists.mp (hamount hempty)
  obtain ⟨_, herror, -⟩ | ⟨stripe, hstripe, hhandled⟩ := webhook_handled h
  · rw [htrusted] at herror
    cases herror
  · obtain rfl : StripeEvent.invoicePaid data = stripe := by
      rw [htrusted] at hstripe
      exact Except.ok.inj hstripe
    cases hhandled with
    | ignored hnot =>
        obtain hnot | hnot := hnot
        · rw [hfound] at hnot
          cases hnot
        · exact absurd ((recordedFor_given hgiven _).trans hempty) hnot
    | charged business' _ hfound' _ hcharges =>
        obtain rfl : business = business' := by
          rw [hfound] at hfound'
          exact Option.some.inj hfound'
        constructor
        · refine ⟨invoiceRow db.now business (some .stripe) data.id .paid amount, ?_, rfl,
            given_eq_some hgiven, rfl, rfl⟩
          rw [hcharges.invoices]
          simp [outcome, hamount]
        · exact ⟨_, charges_lookup hcharges hfound, rfl⟩

-- What the first payment of an invoice leaves behind, for as long as nothing overrides it.
structure Standing (businessId : Uuid) (paidAt : Instant) (db : Database) : Prop where
  clock : paidAt ≤ db.now
  invoice : ∃ row ∈ db.billingInvoices, row.provider = .stripe ∧ row.businessId = businessId ∧
    row.status = .paid
  business : ∃ business, db.businesses.lookup businessId = some business ∧
    business.billingStatus = .active ∧ business.isActive = true ∧
      paidAt ≤ business.billingPeriodStartedAt

theorem charged_standing {business : Business} (hs : Standing businessId paidAt db)
    (hfound : foundBy stripe db.toTables = some business)
    (hfresh : ¬ isDuplicate stripe db.toTables)
    (hcharges : Charges (outcome db.now business stripe) business.id db db')
    (hmeets : ∀ data, stripe = .invoicePaymentFailed data → isSettled business db.toTables →
      data.created.isSome)
    (hnot : ¬ (isAbout businessId stripe db.toTables ∧ supersedes paidAt stripe)) :
    ∃ business, db'.businesses.lookup businessId = some business ∧
      business.billingStatus = .active ∧ business.isActive = true ∧
        paidAt ≤ business.billingPeriodStartedAt := by
  obtain ⟨current, hlookup, hactive, hisActive, hperiod⟩ := hs.business
  by_cases hid : business.id = businessId
  · have hlookup' := charges_lookup hcharges hfound
    obtain rfl : business = current := by
      have hbusiness := foundBy_lookup hfound
      rw [hid, hlookup] at hbusiness
      exact (Option.some.inj hbusiness).symm
    rw [hid] at hlookup'
    have hsuperseded : ¬ supersedes paidAt stripe := fun h => hnot ⟨⟨business, hfound, hid⟩, h⟩
    refine ⟨_, hlookup', ?_⟩
    cases stripe with
    | invoicePaid data => exact ⟨rfl, rfl, hs.clock⟩
    | invoicePaymentFailed data =>
        obtain ⟨row, hrow, hstripe, howner, hpaid⟩ := hs.invoice
        have hsettled : isSettled business db.toTables :=
          ⟨hactive, hisActive, row, hrow, hstripe, howner.trans hid.symm, hpaid⟩
        obtain ⟨created, hcreated⟩ := Option.isSome_iff_exists.mp (hmeets data rfl hsettled)
        have hearlier : ¬ paidAt ≤ created := fun h => hsuperseded ⟨created, hcreated, h⟩
        have hstale : isStale business data.created = true := by
          simp only [isStale, hcreated, Option.any_some, decide_eq_true_eq]
          exact Nat.lt_of_lt_of_le (Nat.lt_of_not_le hearlier) hperiod
        simp only [outcome, hstale, if_true, id]
        exact ⟨hactive, hisActive, hperiod⟩
    | subscriptionUpdated data => exact absurd trivial hsuperseded
    | subscriptionDeleted data => exact absurd trivial hsuperseded
    | other type => cases hfound
  · refine ⟨current, ?_, hactive, hisActive, hperiod⟩
    rw [hcharges.businesses, Table.lookup_modify_ne outcome_key (Ne.symm hid)]
    exact hlookup

theorem Standing.next (hs : Standing businessId paidAt db) (h : NextBilling settings db event db')
    (hmeets : Meets settings db event db')
    (hnot : ¬ Overrides settings businessId paidAt db event db') :
    Standing businessId paidAt db' := by
  have hclock : paidAt ≤ db'.now := Nat.le_trans hs.clock (next_now h)
  obtain ⟨row, hrow, hstripe, howner⟩ := hs.invoice
  refine ⟨hclock, ⟨row, stripe_invoice_kept h hstripe hrow, hstripe, howner⟩, ?_⟩
  cases event with
  | webhook request reply =>
      obtain rfl | ⟨stripe, htrusted, hhandled⟩ := webhook_cases h
      · exact hs.business
      · have hdelivered : stripe ∈ delivered settings (.webhook request reply) := by
          simp [delivered, htrusted, Except.toOption]
        cases hhandled with
        | failed e => exact hs.business
        | ignored _ => exact hs.business
        | charged business _ hfound hfresh hcharges =>
            apply charged_standing hs hfound hfresh hcharges
            · rintro data rfl
              exact hmeets _ hdelivered business hfound (not_not.mp hfresh)
            · exact fun hsuperseded => hnot (.inl ⟨stripe, hdelivered, hsuperseded⟩)
  | sweep =>
      have hswept : Swept db db' := h ▸ suspendPastDueBusinesses_swept db
      obtain ⟨business, hlookup, hactive, hisActive, hperiod⟩ := hs.business
      refine ⟨business, ?_, hactive, hisActive, hperiod⟩
      rw [hswept.businesses, hlookup]
      simp [isOverdue, awaitsSuspension, hactive]
  | elsewhere =>
      have hsame : billingOf businessId db'.toTables = billingOf businessId db.toTables :=
        not_not.mp fun hne => hnot (.inr hne)
      obtain ⟨business, hlookup, hactive, hisActive, hperiod⟩ := hs.business
      rw [billingOf, billingOf, hlookup] at hsame
      obtain ⟨business', hlookup', hbilling⟩ := Option.map_eq_some_iff.mp hsame
      simp only [billing, Prod.mk.injEq] at hbilling
      obtain ⟨hstatus, hflag, hstarted⟩ := hbilling
      exact ⟨business', hlookup', hstatus.trans hactive, hflag.trans hisActive, hstarted ▸ hperiod⟩

theorem replay_unchanged (hrow : ∃ row ∈ db.billingInvoices, isPaidFor reference businessId row)
    (htrusted : trustedEvent settings request = .ok (.invoicePaid data))
    (hgiven : given data.id = some reference) :
    ((stripeWebhook settings request).run db).2 = db := by
  obtain ⟨row, hrow, hstripe, hreference, -⟩ := hrow
  have hnext : NextBilling settings db
      (.webhook request ((stripeWebhook settings request).run db).1)
      ((stripeWebhook settings request).run db).2 := rfl
  obtain hsame | ⟨stripe, hstripe', hhandled⟩ := webhook_cases hnext
  · exact hsame
  · obtain rfl : StripeEvent.invoicePaid data = stripe := by
      rw [htrusted] at hstripe'
      exact Except.ok.inj hstripe'
    have hduplicate : isDuplicate (.invoicePaid data) db.toTables := by
      have hmem : row ∈ recordedFor data.id db.toTables := by
        rw [recordedFor_given hgiven]
        exact mem_recorded.mpr ⟨hrow, hstripe, hreference⟩
      exact List.ne_nil_of_mem hmem
    generalize (stripeWebhook settings request).run db = result at hhandled
    obtain ⟨reply, db'⟩ := result
    cases hhandled with
    | failed e => rfl
    | ignored _ => rfl
    | charged business _ _ hfresh _ => exact absurd hduplicate hfresh

end Steps

theorem paid_invoice_stays_settled {settings : BillingSettings} {db₀ : Database}
    {steps : List (BillingEvent × Database)}
    (hstart : ∀ row ∈ db₀.billingInvoices, row.provider ≠ .stripe)
    (hrun : Run.Along (NextBilling settings) db₀ steps)
    (hmeets : Run.Along (Meets settings) db₀ steps) : KeepsSettled settings db₀ steps := by
  intro reference businessId taken event db rest hpre hpays hfirst
  obtain ⟨hrunTaken, hnext, hrunRest⟩ := Run.along_append.mp (hrun.of_prefix hpre)
  obtain ⟨-, hmeetsNext, hmeetsRest⟩ := Run.along_append.mp (hmeets.of_prefix hpre)
  have hne : reference ≠ "" := by
    obtain ⟨_, data, -, -, hgiven, -⟩ := hpays
    simpa using (Option.filter_eq_some_iff.mp hgiven).2
  have hunpaid : ∀ row ∈ recorded .stripe reference (Run.last db₀ taken).toTables,
      row.status ≠ .paid := by
    refine (hrunTaken.and hfirst).invariant
      (I := fun db => ∀ row ∈ recorded .stripe reference db.toTables, row.status ≠ .paid) ?_ ?_
    · intro row hrow
      obtain ⟨hmem, hstripe, -⟩ := mem_recorded.mp hrow
      exact absurd hstripe (hstart row hmem)
    · rintro db event db' hI ⟨hnext, hnot⟩ row hrow hpaid
      obtain ⟨hmem, hstripe, hreference⟩ := mem_recorded.mp hrow
      obtain hold | ⟨businessId, hpays⟩ := paid_invoice_new hnext hne hstripe hreference hpaid hmem
      · exact hI row (mem_recorded.mpr ⟨hold, hstripe, hreference⟩) hpaid
      · exact hnot businessId hpays
  obtain ⟨hinvoice, business, hlookup, hbilling⟩ := first_payment hnext hmeetsNext hpays hunpaid
  have hkept : ∃ row ∈ (Run.last db rest).billingInvoices, isPaidFor reference businessId row := by
    refine hrunRest.invariant
      (I := fun db => ∃ row ∈ db.billingInvoices, isPaidFor reference businessId row) hinvoice ?_
    rintro db event db' ⟨row, hrow, hpaid⟩ hnext
    exact ⟨row, stripe_invoice_kept hnext hpaid.1 hrow, hpaid⟩
  refine ⟨⟨hkept, fun request data => replay_unchanged hkept⟩, fun hquiet => ?_⟩
  have hstanding : Standing businessId (Run.last db₀ taken).now db := by
    simp only [billing, Prod.mk.injEq] at hbilling
    obtain ⟨hactive, hisActive, hperiod⟩ := hbilling
    obtain ⟨row, hrow, hstripe, -, howner, hpaid⟩ := hinvoice
    exact ⟨next_now hnext, ⟨row, hrow, hstripe, howner, hpaid⟩, business, hlookup, hactive,
      hisActive, Nat.le_of_eq hperiod.symm⟩
  have hlast := ((hrunRest.and hmeetsRest).and hquiet).invariant (I := Standing businessId
    (Run.last db₀ taken).now) hstanding fun _ _ _ hs h => hs.next h.1.1 h.1.2 h.2
  obtain ⟨business, hlookup, hactive, hisActive, -⟩ := hlast.business
  exact ⟨business, hlookup, hactive, hisActive⟩

def settings : BillingSettings where
  environment := "test"

def invoice : StripeInvoice where
  id := some "in_1"
  customer := some "cus_1"
  amountPaid := some 49900
  amountDue := some 49900
  created := some (30 * Time.day)

def failedAttempt : StripeRequest := ⟨some (.invoicePaymentFailed invoice), none, none⟩

def successfulRetry : StripeRequest := ⟨some (.invoicePaid invoice), none, none⟩

theorem subscribed_valid : ∀ c : Constraint, c.Holds {
    businesses := [{ id := 1, billingStatus := .active, stripeCustomerId := some "cus_1" }] } :=
  Tables.violation_eq_none.mp (by decide +kernel)

def subscribed : Database where
  businesses := [{ id := 1, billingStatus := .active, stripeCustomerId := some "cus_1" }]
  now := 31 * Time.day
  valid := subscribed_valid

def served (request : StripeRequest) (db : Database) : Database :=
  ((stripeWebhook settings request).run db).2

theorem payment_settles : KeepsSettled settings subscribed
    [(.webhook successfulRetry (.ok ()), served successfulRetry subscribed)] := by
  refine paid_invoice_stays_settled ?_ ⟨Prod.ext (by decide +kernel) rfl, trivial⟩ ⟨?_, trivial⟩
  · intro row hrow
    cases hrow
  · intro stripe hstripe business _
    obtain rfl : StripeEvent.invoicePaid invoice = stripe := Option.some.inj hstripe
    intro reference hreference
    obtain rfl : "in_1" = reference := Option.some.inj hreference
    exact ⟨fun row hrow => absurd hrow List.not_mem_nil, fun _ => rfl⟩

-- The failed attempt and the successful retry of one invoice carry the same reference.
theorem retried_invoice_stays_unpaid :
    (∀ row ∈ subscribed.billingInvoices, row.provider ≠ .stripe) ∧
      Run.Along (NextBilling settings) subscribed
        [(.webhook failedAttempt (.ok ()), served failedAttempt subscribed),
          (.webhook successfulRetry (.ok ()),
            served successfulRetry (served failedAttempt subscribed))] ∧
      ¬ KeepsSettled settings subscribed
        [(.webhook failedAttempt (.ok ()), served failedAttempt subscribed),
          (.webhook successfulRetry (.ok ()),
            served successfulRetry (served failedAttempt subscribed))] := by
  refine ⟨fun row hrow => absurd hrow List.not_mem_nil,
    ⟨Prod.ext (by decide +kernel) rfl, Prod.ext (by decide +kernel) rfl, trivial⟩, fun h => ?_⟩
  have hfound : foundBy (.invoicePaid invoice) (served failedAttempt subscribed).toTables =
      some { id := 1, billingStatus := .pastDue, stripeCustomerId := some "cus_1" } := by
    decide +kernel
  have hsettled := h "in_1" 1 [(.webhook failedAttempt (.ok ()), served failedAttempt subscribed)]
    (.webhook successfulRetry (.ok ())) (served successfulRetry (served failedAttempt subscribed))
    [] List.prefix_rfl ⟨successfulRetry, invoice, rfl, rfl, rfl, _, hfound, rfl⟩ ?_
  · obtain ⟨row, hrow, -, -, -, hpaid⟩ := hsettled.1.invoice
    have hfailed : ∀ row ∈ (served successfulRetry (served failedAttempt
        subscribed)).billingInvoices, row.status = .failed := by
      decide +kernel
    have hstatus : row.status = .failed := hfailed row hrow
    rw [hpaid] at hstatus
    cases hstatus
  · refine ⟨?_, trivial⟩
    rintro businessId ⟨request, data, hevent, htrusted, -⟩
    obtain ⟨rfl, -⟩ := BillingEvent.webhook.inj hevent
    cases htrusted

end NextgenBackend.Settlement
