import NextgenBackend.Api.RoutesPos.PaymentLinks
import NextgenBackend.Utils.Phone

namespace NextgenBackend.PaymentPhones

open Txn RoutesPos

variable {settings : Payments.Settings} {hostedUrl : Option String} {user : AuthUser}
  {intentId : Uuid} {body : POSPaymentIntentCreateRequest} {db : Database}

-- The row a request for a payment link leaves, and answers with.
def Requested (body : POSPaymentIntentCreateRequest) (intentId : Uuid)
    (r : Except Failure POSPaymentLinkIntent) (db' : Database) : Prop :=
  ∀ intent, r = .ok intent → db'.intents.lookup intentId = some intent ∧
    intent.customerPhone = Phone.normalizeSaMobile body.customerPhone

theorem raised_yields {α : Type} (value : Except Failure α) :
    (RoutesPayments.raised value).Yields db fun _ => True := by
  cases value with
  | ok a => exact yields_done trivial
  | error e => exact yields_fail

theorem createPosPaymentIntent_requests :
    (createPosPaymentIntent settings hostedUrl user intentId body).Ensures db
      (Requested body intentId) := by
  have herror (e : Failure) : Requested body intentId (.error e) db := by
    intro intent h
    cases h
  refine ensures_seq readOnly_requirePosEnabled.yields (fun _ _ => ?_) herror
  refine ensures_seq readOnly_requireStaffOrAbove.yields (fun _ _ => ?_) herror
  refine ensures_seq readOnly_loadBusiness.yields (fun business _ => ?_) herror
  refine ensures_seq readOnly_read.yields (fun _ _ => ?_) herror
  refine ensures_seq readOnly_found.yields (fun till _ => ?_) herror
  refine ensures_seq readOnly_found.yields (fun provider _ => ?_) herror
  refine ensures_seq readOnly_readNow.yields (fun now _ => ?_) herror
  refine ensures_seq (raised_yields _) (fun link _ => ?_) herror
  refine ensures_bind.mpr (commit_ensures (fun db' htables _ => ?_) herror)
  -- The commit went through, so the row it inserts is the only one of its id.
  have hkey : (insertIntent (newPaymentIntent user intentId business till provider
      body.amountCents (Phone.normalizeSaMobile body.customerPhone) link now)
      db.toTables).intents.PrimaryKey := by
    have hvalid := db'.valid .intentsPkey
    rw [htables] at hvalid
    exact hvalid
  have hinserted : db'.intents.lookup intentId = some (newPaymentIntent user intentId business till
      provider body.amountCents (Phone.normalizeSaMobile body.customerPhone) link now) := by
    rw [htables]
    exact Table.lookup_insert_self (Table.primaryKey_insert.mp hkey).2
  refine ensures_bind.mpr (ensures_read.mpr ?_)
  refine ensures_orFail.mpr ⟨fun row hrow intent h => ?_, fun hnone => ?_⟩
  · obtain rfl := Option.some.inj (hinserted.symm.trans hrow)
    obtain rfl := Except.ok.inj h
    exact ⟨hinserted, rfl⟩
  · cases hinserted.symm.trans hnone

theorem sa_mobile_numbers_normalized :
    (∀ raw number, Phone.AsciiDigits raw.toList → Phone.normalizeSaMobile raw = some number →
      Phone.IsSaMobile number) ∧
    (∀ raw number, Phone.normalizeSaMobile raw = some number →
      Phone.normalizeSaMobile number = some number) ∧
    (∀ raw national, Phone.Mobile national →
      Phone.stripChars raw.toList ∈ Phone.spellings national →
      Phone.normalizeSaMobile raw = some (Phone.canonical national)) ∧
    (∀ raw national, Phone.stripChars raw.toList = ['0', '0', '2', '7'] ++ national →
      Phone.normalizeSaMobile raw = none) ∧
    ∀ (settings : Payments.Settings) (hostedUrl : Option String) (user : AuthUser)
      (intentId : Uuid) (body : POSPaymentIntentCreateRequest) (db db' : Database)
      (intent : POSPaymentLinkIntent) (number : String),
      Phone.normalizeSaMobile body.customerPhone = some number →
      (createPosPaymentIntent settings hostedUrl user intentId body).run db = (.ok intent, db') →
      db'.intents.lookup intentId = some intent ∧ intent.customerPhone = some number := by
  refine ⟨fun _ _ => Phone.isSaMobile_of_normalized, fun _ _ => Phone.normalizeSaMobile_idempotent,
    ?_, fun _ _ => Phone.normalizeSaMobile_trunk, ?_⟩
  · intro raw national hnational hspelled
    exact Phone.normalizeSaMobile_eq_some_iff.mpr ⟨national, hnational, hspelled, rfl⟩
  · intro settings hostedUrl user intentId body db db' intent number hnumber hrun
    obtain ⟨hlookup, hphone⟩ := createPosPaymentIntent_requests.elim hrun intent rfl
    exact ⟨hlookup, hphone.trans hnumber⟩

def till : TillSession where
  id := 3
  businessId := 1
  openedByUserId := 7
  openingFloatCents := 0
  openedAt := 0

def openShop : Database where
  businesses := [{ id := 1, posYocoEnabled := true, paymentApiKey := some "key" }]
  tillSessions := [till]
  now := 100
  valid := Tables.violation_eq_none.mp (by decide +kernel)

def urls : Payments.Settings := ⟨"https://return", "https://cancel", "https://api"⟩

def cashier : AuthUser where
  userId := 7
  businessId := 1
  role := .staff

def requestFor (phone : String) : POSPaymentIntentCreateRequest := ⟨500, phone, by decide⟩

def requested (phone : String) : Except Failure POSPaymentLinkIntent × Database :=
  (createPosPaymentIntent urls (some "https://pay") cashier 20 (requestFor phone)).run openShop

def thandi : List Char := "821234567".toList

def linkFor (phone : Option String) : POSPaymentLinkIntent where
  id := 20
  businessId := 1
  tillSessionId := some 3
  createdByUserId := some 7
  amountCents := 500
  currency := "ZAR"
  provider := "YOCO"
  status := .pending
  paymentLinkUrl := some (.hosted "https://pay")
  customerPhone := phone
  createdAt := 100
  expiresAt := 100 + 15 * microsecondsPerMinute

theorem requested_answer {phone : String} {intent : POSPaymentLinkIntent}
    (h : (requested phone).1.toOption = some intent) : (requested phone).1 = .ok intent := by
  cases hr : (requested phone).1 with
  | error e =>
      rw [hr] at h
      cases h
  | ok answered =>
      rw [hr] at h
      exact congrArg _ (Option.some.inj h)

theorem thandi_normalized :
    Phone.IsSaMobile "+27821234567" ∧
    Phone.normalizeSaMobile "+27821234567" = some "+27821234567" ∧
    Phone.normalizeSaMobile "27 82 123-4567" = some (Phone.canonical thandi) ∧
    Phone.normalizeSaMobile "00 27 82 123 4567" = none ∧
    (requested "(082) 123 4567").2.intents.lookup 20 = some (linkFor (some "+27821234567")) := by
  obtain ⟨hform, hidempotent, hspelled, htrunk, hrequested⟩ := sa_mobile_numbers_normalized
  have hraw : Phone.normalizeSaMobile "(082) 123 4567" = some "+27821234567" := by decide +kernel
  refine ⟨hform _ _ (by decide +kernel) hraw, hidempotent _ _ hraw,
    hspelled _ thandi (by decide +kernel) (by decide +kernel), htrunk _ thandi (by decide +kernel),
    ?_⟩
  have hanswer : (requested "(082) 123 4567").1 = .ok (linkFor (some "+27821234567")) :=
    requested_answer (by decide +kernel)
  exact (hrequested urls (some "https://pay") cashier 20 (requestFor "(082) 123 4567") openShop
    _ _ _ hraw (Prod.ext hanswer rfl)).1

-- The trunk code is refused, a superscript digit kept, and a text that is no number at all is
-- stored as no phone.
theorem numbers_not_all_normalized :
    Phone.normalizeSaMobile "0821234567" = some "+27821234567" ∧
    Phone.normalizeSaMobile "0027821234567" = none ∧
    Phone.normalizeSaMobile "082123456²" = some "+2782123456²" ∧
    (requested "no number").1.toOption = some (linkFor none) := by
  decide +kernel

end NextgenBackend.PaymentPhones
