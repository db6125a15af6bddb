import NextgenBackend.Billing.Lifecycle
import NextgenBackend.Library.Run

namespace NextgenBackend.Billing

open Txn

inductive BillingEvent where
  | webhook (request : StripeRequest) (reply : Except Failure Unit)
  | sweep
  | elsewhere

-- Whatever else runs may edit businesses, but only the webhooks record Stripe's invoices.
structure BillingEnvironment (db db' : Database) : Prop where
  clock : db.now ≤ db'.now
  invoices : ∀ row : BillingInvoice, row.provider = .stripe →
    (row ∈ db'.billingInvoices ↔ row ∈ db.billingInvoices)

def NextBilling (settings : BillingSettings) (db : Database) (event : BillingEvent)
    (db' : Database) : Prop :=
  match event with
  | .webhook request reply => (stripeWebhook settings request).run db = (reply, db')
  | .sweep => (suspendPastDueBusinesses.run db).2 = db'
  | .elsewhere => BillingEnvironment db db'

def delivered (settings : BillingSettings) : BillingEvent → Option StripeEvent
  | .webhook request _ => (trustedEvent settings request).toOption
  | _ => none

def foundBy (event : StripeEvent) (t : Tables) : Option Business :=
  match event with
  | .subscriptionUpdated data | .subscriptionDeleted data =>
      findBusinessByStripe data.customer data.id t
  | .invoicePaid data | .invoicePaymentFailed data => findBusinessByStripe data.customer none t
  | .other _ => none

def recordedFor (reference : Option String) (t : Tables) : List BillingInvoice :=
  (given reference).elim [] fun reference => recorded .stripe reference t

def isDuplicate (event : StripeEvent) (t : Tables) : Prop :=
  match event with
  | .invoicePaid data | .invoicePaymentFailed data => recordedFor data.id t ≠ []
  | _ => False

-- What an event makes of the business it is about, and the invoice it records.
structure Outcome where
  set : Business → Business
  invoice : Option BillingInvoice

def outcome (now : Instant) (business : Business) : StripeEvent → Outcome
  | .subscriptionUpdated data => ⟨(statusOf data.status).elim id applyStatus, none⟩
  | .invoicePaid data =>
      ⟨activate now, data.amountPaid.map (invoiceRow now business (some .stripe) data.id .paid)⟩
  | .invoicePaymentFailed data =>
      if isStale business data.created then ⟨id, none⟩ else
        ⟨fun business => { business with billingStatus := .pastDue },
          data.amountDue.map (invoiceRow now business (some .stripe) data.id .failed)⟩
  | .subscriptionDeleted _ => ⟨cancelSubscription, none⟩
  | .other _ => ⟨id, none⟩

structure Charges (outcome : Outcome) (businessId : Uuid) (db db' : Database) : Prop where
  businesses : db'.businesses = db.businesses.modify businessId outcome.set
  invoices : db'.billingInvoices = db.billingInvoices ++ outcome.invoice.toList
  now : db'.now = db.now

inductive Handled (event : StripeEvent) (db : Database) : Except Failure Unit → Database → Prop
  | failed (e : Failure) : Handled event db (.error e) db
  | ignored (h : foundBy event db.toTables = none ∨ isDuplicate event db.toTables) :
      Handled event db (.ok ()) db
  | charged (business : Business) (db' : Database)
      (hfound : foundBy event db.toTables = some business)
      (hfresh : ¬ isDuplicate event db.toTables)
      (hcharges : Charges (outcome db.now business event) business.id db db') :
      Handled event db (.ok ()) db'

def billing (business : Business) : BillingStatus × Bool × Instant :=
  (business.billingStatus, business.isActive, business.billingPeriodStartedAt)

def billingOf (businessId : Uuid) (t : Tables) : Option (BillingStatus × Bool × Instant) :=
  (t.businesses.lookup businessId).map billing

section Handlers

variable {settings : BillingSettings} {event : StripeEvent} {data : StripeInvoice}
  {db db' : Database} {reference : Option String}

theorem recordInvoice_append (row : Cents → BillingInvoice) (amountCents : Option Cents)
    (t : Tables) : recordInvoice row amountCents t =
      { t with billingInvoices := t.billingInvoices ++ (amountCents.map row).toList } := by
  cases amountCents with
  | none => simp [recordInvoice]
  | some amountCents => rfl

theorem modify_id (t : Tables) (businessId : Uuid) :
    t.businesses.modify businessId id = t.businesses := by
  simp [Table.modify]

theorem invoiceAlreadyRecorded_ensures {Q : Except Failure Bool → Database → Prop}
    (hnew : recordedFor reference db.toTables = [] → Q (.ok false) db)
    (hold : recordedFor reference db.toTables ≠ [] → Q (.ok true) db)
    (herr : ∀ e, Q (.error e) db) : (invoiceAlreadyRecorded .stripe reference).Ensures db Q := by
  unfold invoiceAlreadyRecorded
  unfold recordedFor at hnew hold
  cases hreference : given reference with
  | none =>
      rw [hreference] at hnew
      exact hnew rfl
  | some reference =>
      rw [hreference] at hnew hold
      simp only [Option.elim_some] at hnew hold
      simp only [bind_eq, ensures_bind, scalar, ensures_select]
      rcases hrows : recorded .stripe reference db.toTables with _ | ⟨row, _ | ⟨other, rows⟩⟩
      · exact hnew hrows
      · exact hold (by simp [hrows])
      · exact herr _

theorem handleEvent_handled (event : StripeEvent) (db : Database) :
    (handleEvent event).Ensures db (Handled event db) := by
  cases event with
  | subscriptionUpdated data =>
      change Ensures (handleSubscriptionUpdated data) db _
      unfold handleSubscriptionUpdated
      rw [bind_eq, ensures_bind, ensures_read]
      cases hfound : findBusinessByStripe data.customer data.id db.toTables with
      | none => exact .ignored (.inl hfound)
      | some business =>
          refine commit_ensures (fun db' htables hnow => ?_) .failed
          refine .charged business db' hfound id ⟨?_, ?_, hnow⟩
          · rw [htables]; rfl
          · rw [htables]; simp [outcome, Session.stage, setBusiness]
  | invoicePaid data =>
      change Ensures (handleInvoicePaid data) db _
      unfold handleInvoicePaid
      rw [bind_eq, ensures_bind, ensures_read]
      cases hfound : findBusinessByStripe data.customer none db.toTables with
      | none => exact .ignored (.inl hfound)
      | some business =>
          simp only [bind_eq, ensures_bind]
          apply invoiceAlreadyRecorded_ensures
          · intro hnew
            refine commit_ensures (fun db' htables hnow => ?_) .failed
            refine .charged business db' hfound (fun h => h hnew) ⟨?_, ?_, hnow⟩
            · rw [htables]
              simp [markInvoicePaid, Session.stage, recordInvoice_append, setBusiness, outcome]
            · rw [htables]
              simp [markInvoicePaid, Session.stage, recordInvoice_append, setBusiness, outcome]
          · intro hold
            exact .ignored (.inr hold)
          · exact .failed
  | invoicePaymentFailed data =>
      change Ensures (handlePaymentFailed data) db _
      unfold handlePaymentFailed
      rw [bind_eq, ensures_bind, ensures_read]
      cases hfound : findBusinessByStripe data.customer none db.toTables with
      | none => exact .ignored (.inl hfound)
      | some business =>
          simp only [bind_eq, ensures_bind]
          apply invoiceAlreadyRecorded_ensures
          · intro hnew
            refine commit_ensures (fun db' htables hnow => ?_) .failed
            refine .charged business db' hfound (fun h => h hnew) ⟨?_, ?_, hnow⟩
            · rw [htables]
              by_cases hstale : isStale business data.created
              · simp [markPaymentFailed, hstale, outcome, modify_id]
              · simp [markPaymentFailed, hstale, Session.stage, recordInvoice_append, setBusiness,
                  outcome]
            · rw [htables]
              by_cases hstale : isStale business data.created
              · simp [markPaymentFailed, hstale, outcome]
              · simp [markPaymentFailed, hstale, Session.stage, recordInvoice_append, setBusiness,
                  outcome]
          · intro hold
            exact .ignored (.inr hold)
          · exact .failed
  | subscriptionDeleted data =>
      change Ensures (handleSubscriptionDeleted data) db _
      unfold handleSubscriptionDeleted
      rw [bind_eq, ensures_bind, ensures_read]
      cases hfound : findBusinessByStripe data.customer data.id db.toTables with
      | none => exact .ignored (.inl hfound)
      | some business =>
          refine commit_ensures (fun db' htables hnow => ?_) .failed
          refine .charged business db' hfound id ⟨?_, ?_, hnow⟩
          · rw [htables]; rfl
          · rw [htables]; simp [outcome, Session.stage, setBusiness]
  | other type => exact .ignored (.inl rfl)

theorem webhook_handled {request : StripeRequest} {reply : Except Failure Unit}
    (h : (stripeWebhook settings request).run db = (reply, db')) :
    (∃ error, trustedEvent settings request = .error error ∧ reply = .error (.app error) ∧
      db' = db) ∨
      ∃ event, trustedEvent settings request = .ok event ∧ Handled event db reply db' := by
  unfold stripeWebhook at h
  cases htrusted : trustedEvent settings request with
  | error error =>
      rw [htrusted] at h
      obtain ⟨rfl, rfl⟩ := Prod.mk.inj h
      exact .inl ⟨error, rfl, rfl, rfl⟩
  | ok event =>
      rw [htrusted] at h
      exact .inr ⟨event, rfl, (handleEvent_handled event db).elim h⟩

end Handlers

section Sweep

variable {db db' : Database} {businessId : Uuid} {businesses : List Business} {session : Session}
  {t : Tables}

theorem holds_setBusiness {set : Business → Business} (hid : ∀ b, (set b).id = b.id)
    (hcustomer : ∀ b, (set b).stripeCustomerId = b.stripeCustomerId)
    (hsubscription : ∀ b, (set b).stripeSubscriptionId = b.stripeSubscriptionId)
    (h : ∀ c : Constraint, c.Holds t) : ∀ c : Constraint, c.Holds (setBusiness businessId set t) := by
  intro c
  have hc := h c
  cases c with
  | businessesPkey => exact (Table.primaryKey_modify hid).mpr hc
  | uqBusinessesStripeCustomerId =>
      simp only [Constraint.Holds, Table.Unique, setBusiness] at hc ⊢
      rwa [Table.filterMap_modify hcustomer]
  | uqBusinessesStripeSubscriptionId =>
      simp only [Constraint.Holds, Table.Unique, setBusiness] at hc ⊢
      rwa [Table.filterMap_modify hsubscription]
  | _ => exact hc

theorem holds_suspendBusinesses (h : ∀ c : Constraint, c.Holds (session.pending t)) :
    ∀ c : Constraint, c.Holds ((suspendBusinesses businesses session).pending t) := by
  induction businesses generalizing session with
  | nil => exact h
  | cons business businesses ih =>
      apply ih
      exact holds_setBusiness (fun _ => rfl) (fun _ => rfl) (fun _ => rfl) h

theorem lookup_suspendBusinesses :
    ((suspendBusinesses businesses session).pending t).businesses.lookup businessId =
      if businessId ∈ businesses.map (·.id) then
        ((session.pending t).businesses.lookup businessId).map suspendForNonpayment
      else (session.pending t).businesses.lookup businessId := by
  induction businesses generalizing session with
  | nil => simp [suspendBusinesses]
  | cons business businesses ih =>
      have hkey (b : Business) : key (suspendForNonpayment b) = key b := rfl
      have hnext := @ih (session.stage [.business business.id]
        (setBusiness business.id suspendForNonpayment))
      have hlookup : ((session.stage [.business business.id]
          (setBusiness business.id suspendForNonpayment)).pending t).businesses.lookup businessId =
          if businessId = business.id then
            ((session.pending t).businesses.lookup business.id).map suspendForNonpayment
          else (session.pending t).businesses.lookup businessId :=
        Table.lookup_modify hkey
      rw [hlookup] at hnext
      simp only [List.map_cons, List.mem_cons]
      by_cases hid : businessId = business.id
      · subst hid
        rw [if_pos (.inl rfl)]
        by_cases hmem : business.id ∈ businesses.map (·.id)
        · rw [if_pos hmem, if_pos rfl, Option.map_map] at hnext
          exact hnext
        · rw [if_neg hmem, if_pos rfl] at hnext
          exact hnext
      · rw [if_neg hid] at hnext
        simp only [hid, false_or]
        exact hnext

theorem suspendBusinesses_invoices :
    ((suspendBusinesses businesses session).pending t).billingInvoices =
      (session.pending t).billingInvoices := by
  induction businesses generalizing session with
  | nil => rfl
  | cons business businesses ih => exact ih

def isOverdue (now : Instant) (business : Business) : Bool :=
  awaitsSuspension business && isPastGracePeriod now business

structure Swept (db db' : Database) : Prop where
  businesses : ∀ businessId, db'.businesses.lookup businessId =
    (db.businesses.lookup businessId).map fun business =>
      if isOverdue db.now business then suspendForNonpayment business else business
  invoices : db'.billingInvoices = db.billingInvoices
  now : db'.now = db.now

theorem mem_overdue {now : Instant} :
    businessId ∈ ((db.businesses.filter awaitsSuspension).filter (isPastGracePeriod now)).map (·.id) ↔
      ∃ business, db.businesses.lookup businessId = some business ∧ isOverdue now business := by
  rw [List.mem_map]
  constructor
  · rintro ⟨business, hmem, rfl⟩
    simp only [List.mem_filter] at hmem
    obtain ⟨⟨hmem, hawaits⟩, hpast⟩ := hmem
    refine ⟨business, Table.lookup_of_mem (db.valid .businessesPkey) hmem, ?_⟩
    simp [isOverdue, hawaits, hpast]
  · rintro ⟨business, hlookup, hoverdue⟩
    simp only [isOverdue, Bool.and_eq_true] at hoverdue
    refine ⟨business, ?_, Table.lookup_key hlookup⟩
    simp only [List.mem_filter]
    exact ⟨⟨Table.lookup_mem hlookup, hoverdue.1⟩, hoverdue.2⟩

theorem swept_lookup {now : Instant} :
    (if businessId ∈ ((db.businesses.filter awaitsSuspension).filter
        (isPastGracePeriod now)).map (·.id) then
      (db.businesses.lookup businessId).map suspendForNonpayment
    else db.businesses.lookup businessId) =
      (db.businesses.lookup businessId).map fun business =>
        if isOverdue now business then suspendForNonpayment business else business := by
  simp only [mem_overdue]
  cases hlookup : db.businesses.lookup businessId with
  | none => simp
  | some business => by_cases hoverdue : isOverdue now business <;> simp [hoverdue]

theorem suspendPastDueBusinesses_swept (db : Database) :
    suspendPastDueBusinesses.Ensures db fun _ db' => Swept db db' := by
  unfold suspendPastDueBusinesses
  simp only [bind_eq, ensures_bind, ensures_read, readNow]
  split
  next hnone =>
      refine ⟨fun businessId => ?_, rfl, rfl⟩
      rw [← swept_lookup, hnone]
      simp
  next =>
      refine ensures_save.mpr ⟨fun db' hwrite => ?_, fun e hwrite => ?_⟩
      · obtain ⟨htables, hnow⟩ := Database.write_ok hwrite
        refine ⟨fun businessId => ?_, ?_, hnow⟩
        · rw [htables, lookup_suspendBusinesses]
          exact swept_lookup
        · rw [htables, suspendBusinesses_invoices]
          rfl
      · have hvalid (overdue : List Business) :
            ∀ c : Constraint, c.Holds ((suspendBusinesses overdue {}).pending db.toTables) :=
          holds_suspendBusinesses db.valid
        cases (Database.write_of_valid (hvalid _)).symm.trans hwrite

end Sweep

section Steps

variable {settings : BillingSettings} {db db' : Database} {event : BillingEvent}
  {reply : Except Failure Unit} {request : StripeRequest}

theorem webhook_cases (h : NextBilling settings db (.webhook request reply) db') :
    db' = db ∨ ∃ stripe, trustedEvent settings request = .ok stripe ∧
      Handled stripe db reply db' := by
  obtain ⟨_, -, -, hsame⟩ | hhandled := webhook_handled h
  · exact .inl hsame
  · exact .inr hhandled

theorem next_now (h : NextBilling settings db event db') : db.now ≤ db'.now := by
  cases event with
  | webhook request reply =>
      obtain rfl | ⟨stripe, -, hhandled⟩ := webhook_cases h
      · exact Nat.le_refl _
      · cases hhandled with
        | failed e => exact Nat.le_refl _
        | ignored _ => exact Nat.le_refl _
        | charged business _ _ _ hcharges => exact Nat.le_of_eq hcharges.now.symm
  | sweep =>
      have hswept : Swept db db' := h ▸ suspendPastDueBusinesses_swept db
      exact Nat.le_of_eq hswept.now.symm
  | elsewhere => exact h.clock

end Steps

end NextgenBackend.Billing
