import NextgenBackend.Core.Session
import NextgenBackend.Utils.Phone

namespace NextgenBackend.Loyalty

open Txn

def microsecondsPerDay : Nat := 86400000000

def computeTier (pointsBalance : Int) (program : LoyaltyProgram) : LoyaltyTier :=
  if program.goldTierPoints ≤ pointsBalance then .gold
  else if program.silverTierPoints ≤ pointsBalance then .silver
  else .bronze

def isDoublePointsActive (program : LoyaltyProgram) (now : Instant) : Bool :=
  program.doublePointsPromoActive &&
    program.doublePointsPromoStartsAt.all (fun startsAt => startsAt ≤ now) &&
    program.doublePointsPromoEndsAt.all (fun endsAt => now ≤ endsAt)

def lockCustomerForBalanceUpdate (session : Session) (businessId customerId : Uuid) :
    Handler Customer := do
  let row ← .lock (.customer customerId) fun db =>
    ((session.pending db.toTables).customers.lookup customerId).filter
      fun c => c.businessId = businessId
  found (notFoundError "Customer" (some customerId)) row

def postPoints (set : Customer → Customer) (row : LoyaltyTransaction) : Pending := fun t =>
  { t with
    customers := t.customers.modify row.customerId fun c =>
      { set c with loyaltyPointsBalance := row.balanceAfter }
    loyaltyTransactions := t.loyaltyTransactions ++ [row] }

def stagePoints (session : Session) (set : Customer → Customer) (row : LoyaltyTransaction) :
    Session :=
  session.stage [.customer row.customerId] (postPoints set row)

def earnedPoints (order : Order) (program : LoyaltyProgram) (now : Instant) : Int :=
  (order.totalCents / 100 * program.pointsPerRand + program.pointsPerOrder) *
    if isDoublePointsActive program now then 2 else 1

def earnRow (businessId : Uuid) (customer : Customer) (order : Order) (points : Int)
    (doubled : Bool) : LoyaltyTransaction where
  businessId := businessId
  customerId := customer.id
  orderId := some order.id
  transactionType := .earn
  pointsDelta := points
  balanceAfter := customer.loyaltyPointsBalance + points
  reason := some ("Order " ++ order.orderNumber ++ if doubled then " (2x promo)" else "")

def awardPointsForPaidOrder (businessId : Uuid) (customer : Customer) (order : Order)
    (program : LoyaltyProgram) : Handler Session :=
  if ¬ program.isEnabled then pure {} else do
    let now ← readNow
    let points := earnedPoints order program now
    if points ≤ 0 then pure {} else do
      let customer ← lockCustomerForBalanceUpdate {} businessId customer.id
      let row := earnRow businessId customer order points (isDoublePointsActive program now)
      pure (stagePoints {} (fun c =>
        { c with
          loyaltyTier := computeTier row.balanceAfter program
          loyaltyPointsExpireAt :=
            match program.pointsExpiryDays with
            | none | some 0 => c.loyaltyPointsExpireAt
            | some days => some (now + days * microsecondsPerDay) }) row)

def awardLoyaltyPoints (businessId customerId : Uuid) (order : Order) : Handler Unit := do
  let program ← .read fun db => db.loyaltyPrograms.lookup businessId
  match program with
  | none => pure ()
  | some program =>
      if ¬ program.isEnabled then pure () else do
        let customer ← .read fun db => db.customers.lookup customerId
        match customer with
        | none => pure ()
        | some customer =>
            let session ← awardPointsForPaidOrder businessId customer order program
            commit (.awardLoyaltyPoints order.id) session

def awardLoyaltyPointsIfEnabled (businessId : Uuid) (order : Order) : Handler Unit :=
  match order.customerId with
  | none => pure ()
  | some customerId => do
      let _ ← (awardLoyaltyPoints businessId customerId order).attempt
      pure ()

def redeemRow (businessId : Uuid) (customer : Customer) (reward : LoyaltyReward)
    (orderId : Option Uuid) : LoyaltyTransaction where
  businessId := businessId
  customerId := customer.id
  orderId := orderId
  transactionType := .redeem
  pointsDelta := -reward.pointsCost
  balanceAfter := customer.loyaltyPointsBalance - reward.pointsCost
  reason := some ("Redeemed: " ++ reward.name)
  idempotencyKey := orderId.map .redeem

def redeemReward (session : Session) (businessId customerId : Uuid) (reward : LoyaltyReward)
    (program : LoyaltyProgram) (orderId : Option Uuid) :
    Handler (LoyaltyTransaction × Session) := do
  ensure program.isEnabled
    ⟨"LOYALTY_DISABLED", "Loyalty programme is not enabled for this business", 422, []⟩
  ensure reward.isActive
    ⟨"REWARD_INACTIVE", "This reward is no longer available", 422, []⟩
  let customer ← lockCustomerForBalanceUpdate session businessId customerId
  let minimum := program.minRedemptionPoints
  ensure (minimum ≤ customer.loyaltyPointsBalance)
    ⟨"BELOW_MIN_REDEMPTION",
      s!"A minimum of {minimum} points is required before any redemption", 422, []⟩
  ensure (reward.pointsCost ≤ customer.loyaltyPointsBalance)
    ⟨"INSUFFICIENT_POINTS", "Customer does not have enough points for this reward", 422, []⟩
  let row := redeemRow businessId customer reward orderId
  pure (row, stagePoints session
    (fun c => { c with loyaltyTier := computeTier row.balanceAfter program }) row)

structure CheckoutRedemption where
  discountCents : Cents
  pointsCost : Int
  shortfallCents : Cents
  rewardName : String
deriving DecidableEq, Repr

def redeemRewardForCheckout (session : Session) (businessId customerId : Uuid)
    (reward : LoyaltyReward) (program : LoyaltyProgram) (orderId : Uuid)
    (maxDiscountableCents : Cents) : Handler (CheckoutRedemption × Session) :=
  match reward.valueCents with
  | none => raise ⟨"REWARD_NOT_REDEEMABLE_AT_TILL",
      "This reward has no monetary value configured for till redemption — hand it over manually instead",
      422, []⟩
  | some value => do
      let (_, session) ← redeemReward session businessId customerId reward program (some orderId)
      let discount := min value (max 0 maxDiscountableCents)
      pure (⟨discount, reward.pointsCost, value - discount, reward.name⟩, session)

def reversalRow (businessId : Uuid) (customer : Customer) (orderId : Uuid) (pointsBack : Int)
    (notes : String) : LoyaltyTransaction where
  businessId := businessId
  customerId := customer.id
  orderId := some orderId
  transactionType := .adjust
  pointsDelta := pointsBack
  balanceAfter := customer.loyaltyPointsBalance + pointsBack
  reason := some notes
  idempotencyKey := some (.redeemReversal orderId)

def reverseRedemption (session : Session) (businessId orderId : Uuid) (notes : Option String) :
    Handler Session := do
  let original ← scalar fun db => db.loyaltyTransactions.filter fun x =>
    x.businessId = businessId ∧ x.orderId = some orderId ∧ x.transactionType = .redeem
  match original with
  | none => pure session
  | some original => do
      let alreadyReversed ← scalar fun db => db.loyaltyTransactions.filter fun x =>
        x.businessId = businessId ∧ x.idempotencyKey = some (.redeemReversal orderId)
      if alreadyReversed.isSome then pure session else do
        let program ← .read fun db => db.loyaltyPrograms.lookup businessId
        let customer ← lockCustomerForBalanceUpdate session businessId original.customerId
        let row := reversalRow businessId customer orderId (-original.pointsDelta)
          (notes.getD s!"Reward redemption reversed for order {orderId}")
        pure (stagePoints session (fun c =>
          { c with loyaltyTier := program.elim c.loyaltyTier (computeTier row.balanceAfter) }) row)

def adjustRow (businessId : Uuid) (customer : Customer) (pointsDelta : Int) (reason : String)
    (idempotencyKey : Option LoyaltyIdempotencyKey) : LoyaltyTransaction where
  businessId := businessId
  customerId := customer.id
  transactionType := .adjust
  pointsDelta := pointsDelta
  balanceAfter := customer.loyaltyPointsBalance + pointsDelta
  reason := some reason
  idempotencyKey := idempotencyKey

def signed (n : Int) : String :=
  if 0 ≤ n then s!"+{n}" else s!"{n}"

def adjustPoints (businessId customerId : Uuid) (program : Option LoyaltyProgram)
    (pointsDelta : Int) (reason : String) (idempotencyKey : Option LoyaltyIdempotencyKey) :
    Handler (LoyaltyTransaction × Session) := do
  ensure (pointsDelta ≠ 0) ⟨"ZERO_ADJUSTMENT", "Adjustment cannot be zero", 422, []⟩
  let customer ← lockCustomerForBalanceUpdate {} businessId customerId
  let balance := customer.loyaltyPointsBalance
  let change := signed pointsDelta
  ensure (0 ≤ balance + pointsDelta)
    ⟨"INSUFFICIENT_POINTS_FOR_ADJUSTMENT",
      "This adjustment would take the balance below zero " ++
        s!"(current balance: {balance}, requested change: {change})", 422, []⟩
  let row := adjustRow businessId customer pointsDelta reason idempotencyKey
  pure (row, stagePoints {} (fun c =>
    { c with loyaltyTier := program.elim c.loyaltyTier (computeTier row.balanceAfter) }) row)

def insertCustomer (customer : Customer) : Pending := fun t =>
  { t with customers := t.customers.insert customer }

def getOrCreateCustomerByPhone (businessId newCustomerId : Uuid) (phoneNumber : String)
    (displayName : Option String) : Handler (Uuid × Session) := do
  let normalized ← found
    ⟨"INVALID_PHONE_NUMBER", "Enter a valid South African mobile number", 422, []⟩
    (Phone.normalizeSaMobile phoneNumber)
  let customer ← scalar fun db => db.customers.filter fun c =>
    c.businessId = businessId ∧ c.phoneNumber = some normalized
  match customer with
  | some customer => pure (customer.id, {})
  | none =>
      let created : Customer :=
        { id := newCustomerId, businessId := businessId, waId := none
          displayName := displayName, phoneNumber := some normalized }
      pure (newCustomerId, Session.stage {} [] (insertCustomer created))

structure Earning (row : LoyaltyTransaction) : Prop where
  earns : row.transactionType = .earn
  unkeyed : row.idempotencyKey = none

section Frames

variable {sites : CommitSite → Prop} {N : Pending → Prop} {session : Session}
  {businessId customerId : Uuid}

@[simp]
theorem readOnly_lockCustomerForBalanceUpdate :
    (lockCustomerForBalanceUpdate session businessId customerId).ReadOnly fun _ => True :=
  readOnly_seq readOnly_lock fun _ => readOnly_found

theorem awardPointsForPaidOrder_stages {customer : Customer} {order : Order}
    {program : LoyaltyProgram} (hN : Neutral N)
    (hpost : ∀ set row, Earning row → row.orderId = some order.id → N (postPoints set row)) :
    (awardPointsForPaidOrder businessId customer order program).ReadOnly
      (Session.Extends N {}) := by
  unfold awardPointsForPaidOrder
  split
  · exact hN.refl
  · refine readOnly_seq readOnly_readNow fun now => ?_
    dsimp only
    split
    · exact hN.refl
    · refine readOnly_seq readOnly_lockCustomerForBalanceUpdate fun customer => ?_
      exact Session.extends_stage (hpost _ _ ⟨rfl, rfl⟩ rfl)

theorem awardLoyaltyPointsIfEnabled_writes {order : Order} (hN : Neutral N)
    (hsite : sites (.awardLoyaltyPoints order.id))
    (hpost : ∀ set row, Earning row → row.orderId = some order.id → N (postPoints set row)) :
    Writes sites N (awardLoyaltyPointsIfEnabled businessId order) := by
  unfold awardLoyaltyPointsIfEnabled
  split
  · exact writes_done _
  · refine writes_bind (writes_attempt ?_) fun _ => writes_done _
    refine writes_seq readOnly_read fun program => ?_
    split
    · exact writes_done _
    · split
      · exact writes_done _
      · refine writes_seq readOnly_read fun customer => ?_
        split
        · exact writes_done _
        · exact writes_staged (awardPointsForPaidOrder_stages hN hpost) fun session hs =>
            writes_commit hsite hs

theorem redeemReward_stages {reward : LoyaltyReward} {program : LoyaltyProgram}
    {orderId : Option Uuid}
    (hpost : ∀ set row, row.transactionType = .redeem → row.orderId = orderId →
      row.idempotencyKey = orderId.map .redeem → N (postPoints set row)) :
    (redeemReward session businessId customerId reward program orderId).ReadOnly
      fun r => Session.Extends N session r.2 := by
  refine readOnly_seq readOnly_ensure fun _ => ?_
  refine readOnly_seq readOnly_ensure fun _ => ?_
  refine readOnly_seq readOnly_lockCustomerForBalanceUpdate fun customer => ?_
  refine readOnly_seq readOnly_ensure fun _ => ?_
  refine readOnly_seq readOnly_ensure fun _ => ?_
  exact Session.extends_stage (hpost _ _ rfl rfl rfl)

theorem redeemRewardForCheckout_stages {reward : LoyaltyReward} {program : LoyaltyProgram}
    {orderId : Uuid} {maxDiscountableCents : Cents}
    (hpost : ∀ set row, row.transactionType = .redeem → row.orderId = some orderId →
      N (postPoints set row)) :
    (redeemRewardForCheckout session businessId customerId reward program orderId
      maxDiscountableCents).ReadOnly fun r => Session.Extends N session r.2 := by
  unfold redeemRewardForCheckout
  split
  · trivial
  · exact conforms_bind (redeemReward_stages fun set row hredeems horder _ =>
      hpost set row hredeems horder) fun _ h => h

theorem reverseRedemption_stages {orderId : Uuid} {notes : Option String} (hN : Neutral N)
    (hpost : ∀ set row, row.transactionType = .adjust → row.orderId = some orderId →
      N (postPoints set row)) :
    (reverseRedemption session businessId orderId notes).ReadOnly (session.Extends N) := by
  refine readOnly_seq readOnly_scalar fun original => ?_
  split
  · exact hN.refl
  · refine readOnly_seq readOnly_scalar fun alreadyReversed => ?_
    split
    · exact hN.refl
    · refine readOnly_seq readOnly_read fun program => ?_
      refine readOnly_seq readOnly_lockCustomerForBalanceUpdate fun customer => ?_
      exact Session.extends_stage (hpost _ _ rfl rfl)

theorem adjustPoints_stages {program : Option LoyaltyProgram} {pointsDelta : Int} {reason : String}
    {idempotencyKey : Option LoyaltyIdempotencyKey}
    (hpost : ∀ set row, row.transactionType = .adjust → row.orderId = none →
      row.idempotencyKey = idempotencyKey → N (postPoints set row)) :
    (adjustPoints businessId customerId program pointsDelta reason idempotencyKey).ReadOnly
      fun r => Session.Extends N {} r.2 := by
  refine readOnly_seq readOnly_ensure fun _ => ?_
  refine readOnly_seq readOnly_lockCustomerForBalanceUpdate fun customer => ?_
  refine readOnly_seq readOnly_ensure fun _ => ?_
  exact Session.extends_stage (hpost _ _ rfl rfl rfl)

theorem getOrCreateCustomerByPhone_stages {newCustomerId : Uuid} {phoneNumber : String}
    {displayName : Option String} (hN : Neutral N)
    (hinsert : ∀ customer : Customer, customer.id = newCustomerId →
      customer.loyaltyPointsBalance = 0 → N (insertCustomer customer)) :
    (getOrCreateCustomerByPhone businessId newCustomerId phoneNumber displayName).ReadOnly
      fun r => Session.Extends N {} r.2 := by
  refine readOnly_seq readOnly_found fun normalized => ?_
  refine readOnly_seq readOnly_scalar fun customer => ?_
  split
  · exact hN.refl
  · exact Session.extends_stage (hinsert _ rfl rfl)

end Frames

end NextgenBackend.Loyalty
