import NextgenBackend.Core.Rbac
import NextgenBackend.Loyalty.Engine

namespace NextgenBackend.RoutesLoyalty

open Txn

structure RedeemRequest where
  customerId : Uuid
  rewardId : Uuid

structure LoyaltyAdjustmentRequest where
  pointsDelta : Int
  reason : String
  idempotencyKey : Option String
  reasonLength : 3 ≤ reason.length ∧ reason.length ≤ 255

def requireLoyaltyEnabled (businessId : Uuid) : Handler Unit := do
  let business ← loadBusiness businessId
  ensure business.loyaltyEnabled
    ⟨"LOYALTY_NOT_ENABLED", "The loyalty module is not enabled for this business", 409, []⟩

def defaultProgram (businessId : Uuid) : LoyaltyProgram where
  businessId := businessId
  isEnabled := false
  pointsPerRand := 1
  pointsPerOrder := 0
  pointsExpiryDays := none
  minRedemptionPoints := 0
  silverTierPoints := 500
  goldTierPoints := 2000
  doublePointsPromoActive := false
  doublePointsPromoStartsAt := none
  doublePointsPromoEndsAt := none

def insertProgram (program : LoyaltyProgram) : Pending := fun t =>
  { t with loyaltyPrograms := t.loyaltyPrograms.insert program }

def getOrCreateProgram (businessId : Uuid) : Handler LoyaltyProgram := do
  let program ← .read fun db => db.loyaltyPrograms.lookup businessId
  match program with
  | some program => pure program
  | none => do
      commit (.createLoyaltyProgram businessId)
        (Session.stage {} [] (insertProgram (defaultProgram businessId)))
      pure (defaultProgram businessId)

def loadCustomer (businessId customerId : Uuid) : Handler Customer := do
  let row ← .read fun db => (db.customers.lookup customerId).filter fun c =>
    c.businessId = businessId
  found (notFoundError "Customer" (some customerId)) row

def redeemLoyaltyReward (user : AuthUser) (body : RedeemRequest) : Handler LoyaltyTransaction := do
  requireStaffOrAbove user
  requireLoyaltyEnabled user.businessId
  let program ← getOrCreateProgram user.businessId
  let customer ← loadCustomer user.businessId body.customerId
  let row ← .read fun db => (db.loyaltyRewards.lookup body.rewardId).filter fun r =>
    r.businessId = user.businessId
  let reward ← found (notFoundError "LoyaltyReward" (some body.rewardId)) row
  let (row, session) ← Loyalty.redeemReward {} user.businessId customer.id reward program none
  commit (.redeemLoyaltyReward customer.id) session
  pure row

def findByIdempotencyKey (businessId : Uuid) (idempotencyKey : LoyaltyIdempotencyKey) :
    Handler (Option LoyaltyTransaction) :=
  scalar fun db => db.loyaltyTransactions.filter fun x =>
    x.businessId = businessId ∧ x.idempotencyKey = some idempotencyKey

def replayAdjustment (businessId : Uuid) (idempotencyKey : Option LoyaltyIdempotencyKey) :
    Handler (Option LoyaltyTransaction) :=
  match idempotencyKey with
  | none => pure none
  | some idempotencyKey => findByIdempotencyKey businessId idempotencyKey

def adjustCustomerPoints (user : AuthUser) (customerId : Uuid) (body : LoyaltyAdjustmentRequest) :
    Handler LoyaltyTransaction := do
  requireOwnerOrManager user
  requireLoyaltyEnabled user.businessId
  let customer ← loadCustomer user.businessId customerId
  let namespacedKey := (body.idempotencyKey.filter (· ≠ "")).map LoyaltyIdempotencyKey.adjust
  let existing ← replayAdjustment user.businessId namespacedKey
  match existing with
  | some existing => pure existing
  | none => do
      let program ← .read fun db => db.loyaltyPrograms.lookup user.businessId
      let (row, session) ← Loyalty.adjustPoints user.businessId customer.id program
        body.pointsDelta body.reason namespacedKey
      let fault ← .tryCommit (.adjustLoyaltyPoints customer.id) session.touched
        (Database.write session.pending)
      match fault with
      | none => pure row
      | some fault =>
          if fault = .integrity .uqLoyaltyTransactionsBusinessIdIdempotencyKey then do
            let existing ← replayAdjustment user.businessId namespacedKey
            .orFail fault existing
          else .fail fault

section Frames

variable {sites : CommitSite → Prop} {N : Pending → Prop} {user : AuthUser}
  {businessId customerId : Uuid}

@[simp]
theorem readOnly_requireLoyaltyEnabled :
    (requireLoyaltyEnabled businessId).ReadOnly fun _ => True :=
  readOnly_seq readOnly_loadBusiness fun _ => readOnly_ensure

@[simp]
theorem readOnly_loadCustomer : (loadCustomer businessId customerId).ReadOnly fun _ => True :=
  readOnly_seq readOnly_read fun _ => readOnly_found

@[simp]
theorem readOnly_replayAdjustment {idempotencyKey : Option LoyaltyIdempotencyKey} :
    (replayAdjustment businessId idempotencyKey).ReadOnly fun _ => True := by
  unfold replayAdjustment
  split
  · trivial
  · exact readOnly_scalar

theorem getOrCreateProgram_writes (hsite : sites (.createLoyaltyProgram businessId))
    (hinsert : ∀ program, N (insertProgram program)) :
    Writes sites N (getOrCreateProgram businessId) := by
  refine writes_seq readOnly_read fun program => ?_
  split
  · exact writes_done _
  · exact writes_bind (writes_commit hsite (Session.extends_stage (hinsert _))) fun _ =>
      writes_done _

theorem redeemLoyaltyReward_writes {body : RedeemRequest}
    (hprogram : ∀ businessId, sites (.createLoyaltyProgram businessId))
    (hsite : ∀ customerId, sites (.redeemLoyaltyReward customerId))
    (hinsert : ∀ program, N (insertProgram program))
    (hpost : ∀ set row, row.transactionType = .redeem → row.orderId = none →
      row.idempotencyKey = none → N (Loyalty.postPoints set row)) :
    Writes sites N (redeemLoyaltyReward user body) := by
  refine writes_seq readOnly_requireStaffOrAbove fun _ => ?_
  refine writes_seq readOnly_requireLoyaltyEnabled fun _ => ?_
  refine writes_bind (getOrCreateProgram_writes (hprogram _) hinsert) fun program => ?_
  refine writes_seq readOnly_loadCustomer fun customer => ?_
  refine writes_seq readOnly_read fun row => ?_
  refine writes_seq readOnly_found fun reward => ?_
  refine writes_staged (Loyalty.redeemReward_stages hpost) fun redeemed hs => ?_
  exact writes_bind (writes_commit (hsite _) hs) fun _ => writes_done _

theorem adjustCustomerPoints_writes {body : LoyaltyAdjustmentRequest}
    (hsite : ∀ customerId, sites (.adjustLoyaltyPoints customerId))
    (hpost : ∀ set row, row.transactionType = .adjust → row.orderId = none →
      (∀ orderId, row.idempotencyKey ≠ some (.redeemReversal orderId)) →
        N (Loyalty.postPoints set row)) :
    Writes sites N (adjustCustomerPoints user customerId body) := by
  refine writes_seq readOnly_requireOwnerOrManager fun _ => ?_
  refine writes_seq readOnly_requireLoyaltyEnabled fun _ => ?_
  refine writes_seq readOnly_loadCustomer fun customer => ?_
  refine writes_seq readOnly_replayAdjustment fun existing => ?_
  split
  · exact writes_done _
  · refine writes_seq readOnly_read fun program => ?_
    have hkeyed (set : Customer → Customer) (row : LoyaltyTransaction)
        (hadjusts : row.transactionType = .adjust) (horder : row.orderId = none)
        (hkey : row.idempotencyKey =
          (body.idempotencyKey.filter (· ≠ "")).map LoyaltyIdempotencyKey.adjust) :
        N (Loyalty.postPoints set row) :=
      hpost set row hadjusts horder fun orderId => by simp [hkey]
    refine writes_staged (Loyalty.adjustPoints_stages hkeyed) fun adjusted hs => ?_
    refine writes_bind (writes_tryCommit (hsite _) hs.pending) fun fault => ?_
    split
    · exact writes_done _
    · split
      · exact writes_seq readOnly_replayAdjustment fun existing =>
          writes_readOnly (conforms_orFail fun _ _ => trivial)
      · exact writes_fail _

end Frames

end NextgenBackend.RoutesLoyalty
