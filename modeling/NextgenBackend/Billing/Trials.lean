import NextgenBackend.Billing.CommercialInvoices
import NextgenBackend.Billing.IssuedInvoices
import NextgenBackend.Library.Run

namespace NextgenBackend.Trials

open Txn Invoicing

structure TrialSettings where
  trialDefaultDays : Nat := 14
  onboarderMaxTrialExtensionDays : Nat := 14

-- The local date of an instant, and the instant at which a local date begins.
structure Zones where
  localDate : String → Instant → Int
  localMidnight : Int → String → Instant

def endOfLocalDayUtc (zones : Zones) (date : Int) (tzName : String) : Instant :=
  zones.localMidnight (date + 1) tzName - 1

def zoneName (business : Business) : String :=
  if business.timezone = "" then "Africa/Johannesburg" else business.timezone

def computeTrialEnd (zones : Zones) (tzName : String) (days : Nat) (now : Instant) : Instant :=
  endOfLocalDayUtc zones (zones.localDate tzName now + days) tzName

def unsuspendIfTrialExpired (business : Business) : Business :=
  if business.isActive = false ∧ business.suspendedReason = some "TRIAL_EXPIRED" then
    { business with isActive := true, suspendedReason := none }
  else business

def startTrial (settings : TrialSettings) (zones : Zones) (now : Instant) (business : Business) :
    Business :=
  unsuspendIfTrialExpired
    { business with
      billingStatus := .trial
      trialStartedAt := some now
      trialExtensionDaysTotal := 0
      trialEndsAt := some (computeTrialEnd zones (zoneName business) settings.trialDefaultDays now) }

def extended (zones : Zones) (now : Instant) (days : Nat) (business : Business) : Business :=
  let tz := zoneName business
  let currentEndDate := zones.localDate tz (business.trialEndsAt.getD now)
  unsuspendIfTrialExpired
    { business with
      billingStatus := .trial
      trialEndsAt := some (endOfLocalDayUtc zones (currentEndDate + days) tz)
      trialExtensionDaysTotal := business.trialExtensionDaysTotal + days }

def extendTrial (settings : TrialSettings) (zones : Zones) (now : Instant) (days : Int)
    (isOnboarder : Bool) (business : Business) : Except AppError Business :=
  let cap := settings.onboarderMaxTrialExtensionDays
  if days ≤ 0 then
    .error ⟨"INVALID_EXTENSION", "days must be a positive integer", 422, []⟩
  else if isOnboarder ∧ (cap : Int) < business.trialExtensionDaysTotal + days then
    .error ⟨"EXTENSION_CAP_EXCEEDED",
      s!"ONBOARDER trial extensions are capped at {cap} cumulative days per business " ++
        s!"(already used {business.trialExtensionDaysTotal})", 403, []⟩
  else .ok (extended zones now days.toNat business)

structure TrialExtendRequest where
  days : Int
  reason : String
  bounded : 0 < days ∧ days ≤ 365
  reasoned : 1 ≤ reason.length ∧ reason.length ≤ 512

def saveTrial (site : BooksSite) (business : Business) : BooksTxn Business := do
  .save site [.business business.id]
    (Books.write (modifyBusiness business.id fun row => { business with id := row.id }))
  let row ← .read fun db => db.businesses.lookup business.id
  .orFail .unhandled row

def startBusinessTrial (settings : TrialSettings) (zones : Zones) (businessId : Uuid)
    (user : AdminUser) : BooksTxn Business := do
  let business ← getBusinessCommercialScoped businessId user
  let now ← booksNow
  saveTrial (.startTrial businessId) (startTrial settings zones now business)

def extendBusinessTrial (settings : TrialSettings) (zones : Zones) (businessId : Uuid)
    (body : TrialExtendRequest) (user : AdminUser) : BooksTxn Business := do
  let business ← getBusinessCommercialScoped businessId user
  let now ← booksNow
  let business ← settle
    (extendTrial settings zones now body.days (user.role = .onboarder) business)
  saveTrial (.extendTrial businessId) business

section TrialRuns

inductive TrialRequest where
  | start
  | extend (body : TrialExtendRequest)

-- An ONBOARDER's call, so much time after the call before.
structure TrialCall where
  onboarderId : Uuid
  elapsed : Nat
  request : TrialRequest

inductive TrialEvent where
  | refused
  | started
  | extended (days : Nat)
deriving DecidableEq, Repr

def handle (settings : TrialSettings) (zones : Zones) (businessId : Uuid) (call : TrialCall) :
    BooksTxn Business :=
  match call.request with
  | .start => startBusinessTrial settings zones businessId ⟨call.onboarderId, .onboarder⟩
  | .extend body =>
      extendBusinessTrial settings zones businessId body ⟨call.onboarderId, .onboarder⟩

def elapse (elapsed : Nat) (db : Books) : Books :=
  { db with now := db.now + elapsed }

def serve (settings : TrialSettings) (zones : Zones) (businessId : Uuid) (db : Books)
    (call : TrialCall) : Except Failure Business × Books :=
  (handle settings zones businessId call).run (elapse call.elapsed db)

def TrialRequest.event : TrialRequest → TrialEvent
  | .start => .started
  | .extend body => .extended body.days.toNat

def eventOf (request : TrialRequest) : Except Failure Business → TrialEvent
  | .error _ => .refused
  | .ok _ => request.event

def play (settings : TrialSettings) (zones : Zones) (businessId : Uuid) (db : Books) :
    List TrialCall → List (TrialEvent × Books)
  | [] => []
  | call :: calls =>
      let (reply, db') := serve settings zones businessId db call
      (eventOf call.request reply, db') :: play settings zones businessId db' calls

-- The extension days granted since the trial was last started.
def grantedAfter (days : Nat) : List TrialEvent → Nat
  | [] => days
  | .refused :: events => grantedAfter days events
  | .started :: events => grantedAfter 0 events
  | .extended more :: events => grantedAfter (days + more) events

variable {settings : TrialSettings} {zones : Zones} {businessId : Uuid} {db db' : Books}
  {call : TrialCall} {business : Business} {user : AdminUser}

-- The counter of the business, before and after a call.
inductive Counted (settings : TrialSettings) (businessId : Uuid) (db db' : Books) :
    TrialEvent → Prop
  | refused (h : db'.toBookTables = db.toBookTables) : Counted settings businessId db db' .refused
  | started {after : Business} (h : db'.businesses.lookup businessId = some after)
      (hcounter : after.trialExtensionDaysTotal = 0) : Counted settings businessId db db' .started
  | extended {before after : Business} {days : Nat}
      (h : db.businesses.lookup businessId = some before)
      (h' : db'.businesses.lookup businessId = some after)
      (hcounter : after.trialExtensionDaysTotal = before.trialExtensionDaysTotal + days)
      (hcap : after.trialExtensionDaysTotal ≤ settings.onboarderMaxTrialExtensionDays) :
      Counted settings businessId db db' (.extended days)

theorem unsuspendIfTrialExpired_counter :
    (unsuspendIfTrialExpired business).trialExtensionDaysTotal =
      business.trialExtensionDaysTotal := by
  unfold unsuspendIfTrialExpired
  split <;> rfl

theorem unsuspendIfTrialExpired_id : (unsuspendIfTrialExpired business).id = business.id := by
  unfold unsuspendIfTrialExpired
  split <;> rfl

theorem getBusinessCommercialScoped_yields :
    (getBusinessCommercialScoped businessId user).Yields db fun business =>
      db.businesses.lookup businessId = some business := by
  refine yields_seq (S := fun row => row = (db.businesses.lookup businessId).filter fun business =>
    user.role ≠ .onboarder ∨ business.onboardedByAdminId = some user.userId) (yields_read rfl) ?_
  rintro row rfl
  exact yields_orFail fun business h => (Option.filter_eq_some_iff.mp h).1

theorem saveTrial_ensures {site : BooksSite} {Q : Except Failure Business → Books → Prop}
    (hid : business.id = businessId) (hfound : ∃ row, db.businesses.lookup businessId = some row)
    (hok : ∀ db', db'.businesses.lookup businessId = some business → Q (.ok business) db')
    (herr : ∀ e, Q (.error e) db) : (saveTrial site business).Ensures db Q := by
  subst hid
  obtain ⟨row, hfound⟩ := hfound
  refine ensures_bind.mpr (ensures_save.mpr ⟨fun db' hwrite => ?_, fun e _ => herr e⟩)
  have hrow : db'.businesses.lookup business.id = some business := by
    have hmodified : (db.businesses.modify business.id fun row =>
        { business with id := row.id }).lookup business.id = _ :=
      Table.lookup_modify_self fun _ => rfl
    have hkey : row.id = business.id := Table.lookup_key hfound
    rw [hfound, Option.map_some, hkey] at hmodified
    rw [Books.write_ok hwrite]
    exact hmodified
  refine ensures_bind.mpr (ensures_read.mpr (ensures_orFail.mpr ⟨fun row h => ?_, fun h => ?_⟩))
  · obtain rfl := Option.some.inj (hrow.symm.trans h)
    exact hok db' hrow
  · cases hrow.symm.trans h

theorem startTrial_id {now : Instant} : (startTrial settings zones now business).id = business.id :=
  unsuspendIfTrialExpired_id

theorem startTrial_counter {now : Instant} :
    (startTrial settings zones now business).trialExtensionDaysTotal = 0 :=
  unsuspendIfTrialExpired_counter

theorem extended_id {now : Instant} {days : Nat} :
    (extended zones now days business).id = business.id :=
  unsuspendIfTrialExpired_id

theorem extended_counter {now : Instant} {days : Nat} :
    (extended zones now days business).trialExtensionDaysTotal =
      business.trialExtensionDaysTotal + days :=
  unsuspendIfTrialExpired_counter

theorem extendTrial_ok {now : Instant} {days : Int} {after : Business}
    (h : extendTrial settings zones now days true business = .ok after) :
    after = extended zones now days.toNat business ∧
      business.trialExtensionDaysTotal + days.toNat ≤ settings.onboarderMaxTrialExtensionDays := by
  unfold extendTrial at h
  dsimp only at h
  split at h
  · cases h
  · split at h
    · cases h
    next hpositive hcap =>
      simp only [true_and, not_lt] at hcap
      exact ⟨(Except.ok.inj h).symm, by omega⟩

theorem startBusinessTrial_counted : (startBusinessTrial settings zones businessId user).Ensures db
    fun r db' => Counted settings businessId db db' (eventOf .start r) := by
  have herror (e : Failure) : Counted settings businessId db db (eventOf .start (.error e)) :=
    .refused rfl
  refine ensures_seq getBusinessCommercialScoped_yields (fun business hbusiness => ?_) herror
  refine ensures_bind.mpr (ensures_read.mpr ?_)
  exact saveTrial_ensures (startTrial_id.trans (Table.lookup_key hbusiness)) ⟨business, hbusiness⟩
    (fun db' hrow => .started hrow startTrial_counter) herror

theorem extendBusinessTrial_counted {body : TrialExtendRequest} (hrole : user.role = .onboarder) :
    (extendBusinessTrial settings zones businessId body user).Ensures db
      fun r db' => Counted settings businessId db db' (eventOf (.extend body) r) := by
  have herror (e : Failure) :
      Counted settings businessId db db (eventOf (.extend body) (.error e)) := .refused rfl
  refine ensures_seq getBusinessCommercialScoped_yields (fun business hbusiness => ?_) herror
  refine ensures_bind.mpr (ensures_read.mpr (ensures_bind.mpr ?_))
  rw [hrole]
  cases hextend : extendTrial settings zones db.now body.days (decide (AdminRole.onboarder =
      .onboarder)) business with
  | error error => exact herror (.app error)
  | ok after =>
      obtain ⟨rfl, hcap⟩ := extendTrial_ok hextend
      change (saveTrial (.extendTrial businessId) _).Ensures db fun r db' =>
        Counted settings businessId db db' (eventOf (.extend body) r)
      refine saveTrial_ensures (extended_id.trans (Table.lookup_key hbusiness))
        ⟨business, hbusiness⟩ (fun db' hrow => ?_) herror
      exact Counted.extended hbusiness hrow extended_counter (extended_counter.trans_le hcap)

theorem serve_counted (settings : TrialSettings) (zones : Zones) (businessId : Uuid) (db : Books)
    (call : TrialCall) :
    Counted settings businessId (elapse call.elapsed db) (serve settings zones businessId db call).2
      (eventOf call.request (serve settings zones businessId db call).1) := by
  obtain ⟨onboarderId, elapsed, request⟩ := call
  cases request with
  | start => exact startBusinessTrial_counted
  | extend body => exact extendBusinessTrial_counted rfl

theorem granted_bounded (calls : List TrialCall) (days : Nat)
    (hcounter : ∀ business, db.businesses.lookup businessId = some business →
      days ≤ business.trialExtensionDaysTotal)
    (hcap : days ≤ settings.onboarderMaxTrialExtensionDays) :
    grantedAfter days ((play settings zones businessId db calls).map (·.1)) ≤
      settings.onboarderMaxTrialExtensionDays := by
  induction calls generalizing db days with
  | nil => exact hcap
  | cons call calls ih =>
      have hstep := serve_counted settings zones businessId db call
      rw [play, List.map_cons]
      generalize serve settings zones businessId db call = answered at hstep
      obtain ⟨reply, db'⟩ := answered
      dsimp only at hstep ⊢
      generalize eventOf call.request reply = event at hstep
      cases hstep with
      | refused h =>
          refine ih days (fun business hbusiness => hcounter business ?_) hcap
          rw [h] at hbusiness
          exact hbusiness
      | started h hzero => exact ih 0 (fun _ _ => Nat.zero_le _) (Nat.zero_le _)
      | @extended before after more h h' hmore hbelow =>
          have hgrown : days + more ≤ after.trialExtensionDaysTotal := by
            rw [hmore]
            exact Nat.add_le_add_right (hcounter before h) more
          refine ih (days + more) (fun business hbusiness => ?_) (hgrown.trans hbelow)
          obtain rfl := Option.some.inj (h'.symm.trans hbusiness)
          exact hgrown

def RefusalsKeep (db : Books) (event : TrialEvent) (db' : Books) : Prop :=
  event = .refused → db'.toBookTables = db.toBookTables

theorem refusals_keep (calls : List TrialCall) :
    Run.Along RefusalsKeep db (play settings zones businessId db calls) := by
  induction calls generalizing db with
  | nil => trivial
  | cons call calls ih =>
      refine ⟨fun hrefused => ?_, ih⟩
      have hstep := serve_counted settings zones businessId db call
      unfold serve at hstep
      rw [hrefused] at hstep
      cases hstep with
      | refused h => exact h

theorem extension_days_capped_since_start (settings : TrialSettings) (zones : Zones)
    (businessId : Uuid) (db : Books) (calls : List TrialCall) :
    grantedAfter 0 ((play settings zones businessId db calls).map (·.1)) ≤
        settings.onboarderMaxTrialExtensionDays ∧
      Run.Along RefusalsKeep db (play settings zones businessId db calls) :=
  ⟨granted_bounded calls 0 (fun _ _ => Nat.zero_le _) (Nat.zero_le _), refusals_keep calls⟩

def TrialEvent.days : TrialEvent → Nat
  | .extended days => days
  | _ => 0

def KeepsPaid (businessId : Uuid) (db : Books) (_ : TrialEvent) (db' : Books) : Prop :=
  ∀ business ∈ db.businesses.lookup businessId, business.billingStatus ∈ [.active, .pastDue] →
    ∀ after ∈ db'.businesses.lookup businessId, after.billingStatus ≠ .trial

def utc : Zones where
  localDate _ now := (now / Time.day : Nat)
  localMidnight date _ := date.toNat * Time.day

def paying : Books where
  businesses := [{ id := 1, billingStatus := .active, onboardedByAdminId := some 5 }]
  now := 100
  valid := by decide

def restart : TrialCall := ⟨5, 60, .start⟩

def fortnight : TrialCall := ⟨5, 60, .extend ⟨14, "demo", by decide, by decide⟩⟩

-- A restart clears the counter, and a paying business goes back on trial.
theorem restart_grants_past_cap :
    (¬ ∀ (settings : TrialSettings) (zones : Zones) (businessId : Uuid) (db : Books)
      (calls : List TrialCall),
      ((play settings zones businessId db calls).map (·.1.days)).sum ≤
        settings.onboarderMaxTrialExtensionDays) ∧
    ¬ ∀ (settings : TrialSettings) (zones : Zones) (businessId : Uuid) (db : Books)
      (calls : List TrialCall),
      Run.Along (KeepsPaid businessId) db (play settings zones businessId db calls) := by
  constructor
  · intro h
    have hdays : ((play {} utc 1 paying [restart, fortnight, restart, fortnight]).map
        (·.1.days)).sum = 28 := by decide +kernel
    have hcap := h {} utc 1 paying [restart, fortnight, restart, fortnight]
    rw [hdays] at hcap
    exact absurd hcap (by decide)
  · intro h
    have hstatus : ((serve {} utc 1 paying restart).2.businesses.lookup 1).map (·.billingStatus) =
        some .trial := by decide +kernel
    obtain ⟨after, hafter, htrial⟩ := Option.map_eq_some_iff.mp hstatus
    obtain ⟨hkept, -⟩ := h {} utc 1 paying [restart]
    exact hkept _ rfl (by decide) after hafter htrial

end TrialRuns

end NextgenBackend.Trials
