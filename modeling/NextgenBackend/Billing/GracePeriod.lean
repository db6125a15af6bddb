import NextgenBackend.Billing.System

namespace NextgenBackend.GracePeriod

open Txn Billing

def isPastDue (businessId : Uuid) (db : Database) : Bool :=
  (db.businesses.lookup businessId).any fun business => business.billingStatus = .pastDue

def gracePeriod : Nat := gracePeriodDays * Time.day

-- The business was PAST_DUE in every state of the run since one that is older than the grace period.
def ContinuouslyPastDue (businessId : Uuid) (db₀ : Database)
    (steps : List (BillingEvent × Database)) : Prop :=
  ∃ earlier, earlier <+: steps ∧
    (Run.last db₀ earlier).now + gracePeriod < (Run.last db₀ steps).now ∧
      ∀ between, earlier <+: between → between <+: steps →
        isPastDue businessId (Run.last db₀ between)

def Suspends (businessId : Uuid) (db : Database) (event : BillingEvent) (db' : Database) : Prop :=
  event = .sweep ∧ ∃ business business', db.businesses.lookup businessId = some business ∧
    db'.businesses.lookup businessId = some business' ∧
      business.billingStatus ≠ .suspended ∧ business'.billingStatus = .suspended

def SuspendsAfterGrace (db₀ : Database) (steps : List (BillingEvent × Database)) : Prop :=
  ∀ taken event db businessId, taken ++ [(event, db)] <+: steps →
    Suspends businessId (Run.last db₀ taken) event db → ContinuouslyPastDue businessId db₀ taken

def markPastDue (businessId : Uuid) (since : Option Instant) (db : Database) : Option Instant :=
  if isPastDue businessId db then some (since.getD db.now) else none

-- When the business last became PAST_DUE, while it is.
def pastDueSince (businessId : Uuid) (db₀ : Database) (steps : List (BillingEvent × Database)) :
    Option Instant :=
  (steps.map Prod.snd).foldl (markPastDue businessId) (markPastDue businessId none db₀)

-- A sweep that finds an active business PAST_DUE and its last payment older than the grace period
-- finds that it became PAST_DUE longer ago than that, too.
def Meets (db₀ : Database) (steps : List (BillingEvent × Database)) : Prop :=
  ∀ taken db businessId, taken ++ [(.sweep, db)] <+: steps →
    ∀ business, (Run.last db₀ taken).businesses.lookup businessId = some business →
      business.billingStatus = .pastDue → business.isActive = true →
        business.billingPeriodStartedAt + gracePeriod < (Run.last db₀ taken).now →
          ∀ since ∈ pastDueSince businessId db₀ taken, since + gracePeriod < (Run.last db₀ taken).now

section Runs

variable {settings : BillingSettings} {db₀ db db' : Database} {event : BillingEvent}
  {steps : List (BillingEvent × Database)} {businessId : Uuid} {since : Instant}

theorem pastDueSince_snoc : pastDueSince businessId db₀ (steps ++ [(event, db)]) =
    markPastDue businessId (pastDueSince businessId db₀ steps) db := by
  simp [pastDueSince]

theorem pastDueSince_le (hrun : Run.Along (NextBilling settings) db₀ steps) :
    ∀ since ∈ pastDueSince businessId db₀ steps, since ≤ (Run.last db₀ steps).now := by
  refine hrun.history (I := fun taken => ∀ since ∈ pastDueSince businessId db₀ taken,
    since ≤ (Run.last db₀ taken).now) ?_ ?_
  · intro since hsince
    simp only [pastDueSince, List.map_nil, List.foldl_nil, markPastDue] at hsince
    split at hsince
    · obtain rfl := Option.some.inj hsince
      exact Nat.le_refl _
    · cases hsince
  · intro taken event db ih hnext since hsince
    have hclock : (Run.last db₀ taken).now ≤ db.now := next_now hnext
    simp only [Run.last_append, Run.last]
    rw [pastDueSince_snoc] at hsince
    unfold markPastDue at hsince
    split at hsince
    · obtain rfl := Option.some.inj hsince
      cases hbefore : pastDueSince businessId db₀ taken with
      | none => exact Nat.le_refl _
      | some since => exact Nat.le_trans (ih since hbefore) hclock
    · cases hsince

theorem pastDueSince_began (h : pastDueSince businessId db₀ steps = some since) :
    ∃ earlier, earlier <+: steps ∧ (Run.last db₀ earlier).now = since ∧
      ∀ between, earlier <+: between → between <+: steps →
        isPastDue businessId (Run.last db₀ between) := by
  induction steps using List.reverseRecOn generalizing since with
  | nil =>
      simp only [pastDueSince, List.map_nil, List.foldl_nil, markPastDue] at h
      split at h
      next hdue =>
          refine ⟨[], List.prefix_rfl, Option.some.inj h, fun between _ hpre => ?_⟩
          rw [List.prefix_nil.mp hpre]
          exact hdue
      next => cases h
  | append_singleton steps step ih =>
      obtain ⟨event, db⟩ := step
      have hlast : Run.last db₀ (steps ++ [(event, db)]) = db := by simp [Run.last]
      rw [pastDueSince_snoc] at h
      unfold markPastDue at h
      split at h
      next hdue =>
          cases hbefore : pastDueSince businessId db₀ steps with
          | none =>
              rw [hbefore] at h
              refine ⟨steps ++ [(event, db)], List.prefix_rfl, ?_, fun between hpre hpre' => ?_⟩
              · rw [hlast]
                exact Option.some.inj h
              · obtain rfl := hpre.eq_of_length_le hpre'.length_le
                rw [hlast]
                exact hdue
          | some before =>
              rw [hbefore] at h
              obtain rfl : before = since := Option.some.inj h
              obtain ⟨earlier, hearlier, hnow, hbetween⟩ := ih hbefore
              refine ⟨earlier, hearlier.trans (List.prefix_append _ _), hnow, ?_⟩
              intro between hpre hpre'
              obtain rfl | hpre' := List.prefix_concat_iff.mp hpre'
              · rw [hlast]
                exact hdue
              · exact hbetween between hpre hpre'
      next => cases h

theorem pastDueSince_of_stretch (hrun : Run.Along (NextBilling settings) db₀ steps)
    {earlier : List (BillingEvent × Database)} (hearlier : earlier <+: steps)
    (hbetween : ∀ between, earlier <+: between → between <+: steps →
      isPastDue businessId (Run.last db₀ between)) :
    ∃ since, pastDueSince businessId db₀ steps = some since ∧
      since ≤ (Run.last db₀ earlier).now := by
  induction steps using List.reverseRecOn with
  | nil =>
      obtain rfl := List.prefix_nil.mp hearlier
      have hdue : isPastDue businessId db₀ = true := hbetween [] List.prefix_rfl List.prefix_rfl
      exact ⟨db₀.now, by simp [pastDueSince, markPastDue, hdue], Nat.le_refl _⟩
  | append_singleton steps step ih =>
      obtain ⟨event, db⟩ := step
      have hdue : isPastDue businessId db = true := by
        simpa [Run.last] using hbetween _ hearlier List.prefix_rfl
      obtain rfl | hpre := List.prefix_concat_iff.mp hearlier
      · have hsnoc : pastDueSince businessId db₀ (steps ++ [(event, db)]) =
            some ((pastDueSince businessId db₀ steps).getD db.now) := by
          simp [pastDueSince_snoc, markPastDue, hdue]
        exact ⟨_, hsnoc, pastDueSince_le hrun _ hsnoc⟩
      · obtain ⟨since, hsince, hle⟩ := ih (hrun.of_prefix (List.prefix_append _ _)) hpre
          fun between hpre hpre' =>
            hbetween between hpre (hpre'.trans (List.prefix_append _ _))
        exact ⟨since, by simp [pastDueSince_snoc, markPastDue, hdue, hsince], hle⟩

theorem continuouslyPastDue_iff (hrun : Run.Along (NextBilling settings) db₀ steps) :
    ContinuouslyPastDue businessId db₀ steps ↔
      ∃ since ∈ pastDueSince businessId db₀ steps,
        since + gracePeriod < (Run.last db₀ steps).now := by
  constructor
  · rintro ⟨earlier, hearlier, hlong, hbetween⟩
    obtain ⟨since, hsince, hle⟩ := pastDueSince_of_stretch hrun hearlier hbetween
    exact ⟨since, hsince, Nat.lt_of_le_of_lt (Nat.add_le_add_right hle _) hlong⟩
  · rintro ⟨since, hsince, hlong⟩
    obtain ⟨earlier, hearlier, rfl, hbetween⟩ := pastDueSince_began hsince
    exact ⟨earlier, hearlier, hlong, hbetween⟩

theorem suspends_iff (hnext : NextBilling settings db .sweep db') :
    Suspends businessId db .sweep db' ↔ ∃ business, db.businesses.lookup businessId = some business ∧
      isOverdue db.now business := by
  have hswept : Swept db db' := hnext ▸ suspendPastDueBusinesses_swept db
  constructor
  · rintro ⟨-, business, business', hlookup, hlookup', hbefore, hafter⟩
    refine ⟨business, hlookup, ?_⟩
    rw [hswept.businesses, hlookup, Option.map_some] at hlookup'
    by_cases hoverdue : isOverdue db.now business
    · exact hoverdue
    · rw [if_neg hoverdue] at hlookup'
      obtain rfl := Option.some.inj hlookup'
      exact absurd hafter hbefore
  · rintro ⟨business, hlookup, hoverdue⟩
    refine ⟨rfl, business, suspendForNonpayment business, hlookup, ?_, ?_, rfl⟩
    · rw [hswept.businesses, hlookup, Option.map_some, if_pos hoverdue]
    · intro hsuspended
      simp [isOverdue, awaitsSuspension, hsuspended] at hoverdue

theorem isOverdue_iff {now : Instant} {business : Business} : isOverdue now business = true ↔
    business.billingStatus = .pastDue ∧ business.isActive = true ∧
      business.billingPeriodStartedAt + gracePeriod < now := by
  simp only [isOverdue, awaitsSuspension, isPastGracePeriod, gracePeriod, Bool.and_eq_true,
    decide_eq_true_eq]
  constructor
  · rintro ⟨⟨hstatus, hactive⟩, -, hlate⟩
    exact ⟨hstatus, hactive, hlate⟩
  · rintro ⟨hstatus, hactive, hlate⟩
    exact ⟨⟨hstatus, hactive⟩, hstatus, hlate⟩

end Runs

theorem suspends_after_grace_iff {settings : BillingSettings} {db₀ : Database}
    {steps : List (BillingEvent × Database)} (hrun : Run.Along (NextBilling settings) db₀ steps) :
    SuspendsAfterGrace db₀ steps ↔ Meets db₀ steps := by
  constructor
  · intro h taken db businessId hpre business hlookup hstatus hactive hlate since hsince
    obtain ⟨hbefore, hnext⟩ := Run.along_snoc.mp (hrun.of_prefix hpre)
    have hsuspends := (suspends_iff hnext).mpr
      ⟨business, hlookup, isOverdue_iff.mpr ⟨hstatus, hactive, hlate⟩⟩
    have hlong := h taken .sweep db businessId hpre hsuspends
    obtain ⟨since', hsince', hlong⟩ := (continuouslyPastDue_iff hbefore).mp hlong
    obtain rfl : since = since' := by
      rw [hsince] at hsince'
      exact Option.some.inj hsince'
    exact hlong
  · intro h taken event db businessId hpre hsuspends
    obtain rfl := hsuspends.1
    obtain ⟨hbefore, hnext⟩ := Run.along_snoc.mp (hrun.of_prefix hpre)
    obtain ⟨business, hlookup, hoverdue⟩ := (suspends_iff hnext).mp hsuspends
    obtain ⟨hstatus, hactive, hlate⟩ := isOverdue_iff.mp hoverdue
    have hdue : isPastDue businessId (Run.last db₀ taken) = true := by
      simp [isPastDue, hlookup, hstatus]
    obtain ⟨since, hsince, -⟩ := pastDueSince_of_stretch hbefore (List.prefix_rfl (l := taken))
      fun between hpre hpre' => by
        obtain rfl := hpre.eq_of_length_le hpre'.length_le
        exact hdue
    exact (continuouslyPastDue_iff hbefore).mpr
      ⟨since, hsince, h taken db businessId hpre business hlookup hstatus hactive hlate since hsince⟩

def settings : BillingSettings where
  environment := "test"

def renewal : StripeInvoice where
  id := some "in_2"
  customer := some "cus_1"
  amountDue := some 49900
  created := some (30 * Time.day)

def failedRenewal : StripeRequest := ⟨some (.invoicePaymentFailed renewal), none, none⟩

-- The business paid at the start of a period of thirty days.
def renewing (now : Instant) : Database where
  businesses := [{ id := 1, billingStatus := .active, stripeCustomerId := some "cus_1" }]
  now := now
  valid := Tables.violation_eq_none.mp (by decide +kernel)

def unpaid : Database :=
  ((stripeWebhook settings failedRenewal).run (renewing (30 * Time.day))).2

def unpaidSince (elapsed : Nat) : Database :=
  { unpaid with now := 30 * Time.day + elapsed }

def sweptAfter (elapsed : Nat) : List (BillingEvent × Database) :=
  [(.elsewhere, unpaidSince elapsed),
    (.sweep, (suspendPastDueBusinesses.run (unpaidSince elapsed)).2)]

theorem sweptAfter_runs (elapsed : Nat) :
    Run.Along (NextBilling settings) unpaid (sweptAfter elapsed) :=
  ⟨⟨Nat.le_add_right _ _, fun _ _ => Iff.rfl⟩, rfl, trivial⟩

theorem suspended_after_grace : SuspendsAfterGrace unpaid (sweptAfter (8 * Time.day)) := by
  refine (suspends_after_grace_iff (sweptAfter_runs _)).mpr ?_
  intro taken db businessId hpre business hlookup _ _ _ since hsince
  rcases taken with _ | ⟨first, _ | ⟨second, rest⟩⟩
  · cases (List.cons_prefix_cons.mp hpre).1
  · obtain ⟨rfl, -⟩ := List.cons_prefix_cons.mp hpre
    have hmem : business ∈ (unpaidSince (8 * Time.day)).businesses := Table.lookup_mem hlookup
    have hids : ∀ b ∈ (unpaidSince (8 * Time.day)).businesses, b.id = 1 := by decide +kernel
    obtain rfl : businessId = 1 := (Table.lookup_key hlookup).symm.trans (hids business hmem)
    have hlong : ∀ since ∈ pastDueSince 1 unpaid [(.elsewhere, unpaidSince (8 * Time.day))],
        since + gracePeriod < (unpaidSince (8 * Time.day)).now := by
      decide +kernel
    exact hlong since hsince
  · have hlength := hpre.length_le
    simp [sweptAfter] at hlength

theorem renewal_suspended_within_the_hour :
    Run.Along (NextBilling settings) (renewing (30 * Time.day))
        ((.webhook failedRenewal (.ok ()), unpaid) :: sweptAfter (60 * Time.minute)) ∧
      ¬ SuspendsAfterGrace (renewing (30 * Time.day))
        ((.webhook failedRenewal (.ok ()), unpaid) :: sweptAfter (60 * Time.minute)) := by
  have hrun : Run.Along (NextBilling settings) (renewing (30 * Time.day))
      ((.webhook failedRenewal (.ok ()), unpaid) :: sweptAfter (60 * Time.minute)) :=
    ⟨Prod.ext (by decide +kernel) rfl, sweptAfter_runs _⟩
  refine ⟨hrun, fun h => ?_⟩
  have hsweep : NextBilling settings (unpaidSince (60 * Time.minute)) .sweep
      (suspendPastDueBusinesses.run (unpaidSince (60 * Time.minute))).2 := rfl
  have hlong := h [(.webhook failedRenewal (.ok ()), unpaid),
    (.elsewhere, unpaidSince (60 * Time.minute))] .sweep _ 1 List.prefix_rfl
    ((suspends_iff hsweep).mpr
      ⟨{ id := 1, billingStatus := .pastDue, stripeCustomerId := some "cus_1" },
        by decide +kernel, by decide +kernel⟩)
  obtain ⟨since, hsince, hlong⟩ := (continuouslyPastDue_iff
    (hrun.of_prefix (List.prefix_append _ [_]))).mp hlong
  have hrecent : ∀ since ∈ pastDueSince 1 (renewing (30 * Time.day))
      [(.webhook failedRenewal (.ok ()), unpaid), (.elsewhere, unpaidSince (60 * Time.minute))],
      ¬ since + gracePeriod < (unpaidSince (60 * Time.minute)).now := by
    decide +kernel
  exact hrecent since hsince hlong

end NextgenBackend.GracePeriod
