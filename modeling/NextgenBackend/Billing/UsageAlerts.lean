import NextgenBackend.Library.Binary64
import NextgenBackend.Library.Run
import NextgenBackend.Shared.Models

namespace NextgenBackend.Billing

-- A business with the allowance that its column of 32 bits holds.
structure MeteredBusiness extends Business where
  whatsappOrderAllowance : Option Int
  int4 : ∀ allowance ∈ whatsappOrderAllowance, allowance < 2 ^ 31

def whatsappBillableStatuses : List OrderStatus := [.collected, .delivered, .completed]

structure WhatsAppOrderUsage where
  periodStart : Instant
  ordersUsed : Nat
  ordersTotalAllStatuses : Nat
  ordersAllowance : Option Int
  ordersRemaining : Option Int
  pctUsed : Option ℚ
  tier : Option String

def placed (business : MeteredBusiness) (order : Order) : Bool :=
  order.businessId = business.id && order.source = .whatsapp &&
    business.billingPeriodStartedAt ≤ order.createdAt

def ordersUsed (orders : List Order) (business : MeteredBusiness) : Nat :=
  orders.countP fun order => placed business order && whatsappBillableStatuses.contains order.status

def exactPct (used : Nat) (allowance : Int) : ℚ :=
  if 0 < allowance then Binary64.mul (Binary64.div used allowance) 100 else 100

def tierOf (pctUsed : ℚ) : String :=
  if 100 ≤ pctUsed then "exceeded"
  else if 90 ≤ pctUsed then "warning_90"
  else if 80 ≤ pctUsed then "warning_80"
  else "ok"

def getWhatsappOrderUsage (orders : List Order) (business : MeteredBusiness) :
    WhatsAppOrderUsage :=
  let used := ordersUsed orders business
  let usage : WhatsAppOrderUsage :=
    { periodStart := business.billingPeriodStartedAt
      ordersUsed := used
      ordersTotalAllStatuses := orders.countP (placed business)
      ordersAllowance := none
      ordersRemaining := none
      pctUsed := none
      tier := none }
  match business.whatsappOrderAllowance with
  | none => usage
  | some allowance =>
      { usage with
        ordersAllowance := some allowance
        ordersRemaining := some (max 0 (allowance - used))
        pctUsed := some (Binary64.round (exactPct used allowance) 2)
        tier := some (tierOf (exactPct used allowance)) }

structure UsageAlert where
  businessId : Uuid
  billingPeriodStartedAt : Instant
  thresholdCrossed : Int
  ordersUsed : Nat
  ordersAllowance : Option Int
deriving DecidableEq

def UsageAlert.key (alert : UsageAlert) : Uuid × Instant × Int :=
  (alert.businessId, alert.billingPeriodStartedAt, alert.thresholdCrossed)

def usageAlertThresholds : List Int := [100, 90, 80]

def alertFor (business : MeteredBusiness) (usage : WhatsAppOrderUsage) (threshold : Int) :
    UsageAlert where
  businessId := business.id
  billingPeriodStartedAt := business.billingPeriodStartedAt
  thresholdCrossed := threshold
  ordersUsed := usage.ordersUsed
  ordersAllowance := usage.ordersAllowance

-- The first threshold that is recorded already ends the loop.
def recordThresholds (business : MeteredBusiness) (usage : WhatsAppOrderUsage) (pctUsed : ℚ) :
    List Int → List UsageAlert → List UsageAlert
  | [], alerts => alerts
  | threshold :: rest, alerts =>
      if pctUsed < threshold then recordThresholds business usage pctUsed rest alerts
      else if alerts.any fun alert => alert.key = (alertFor business usage threshold).key then alerts
      else recordThresholds business usage pctUsed rest (alerts ++ [alertFor business usage threshold])

def checkBusiness (orders : List Order) (alerts : List UsageAlert) (business : MeteredBusiness) :
    List UsageAlert :=
  let usage := getWhatsappOrderUsage orders business
  match usage.pctUsed with
  | none => alerts
  | some pctUsed => recordThresholds business usage pctUsed usageAlertThresholds alerts

-- What a run reads: the businesses and the orders as they are on that day.
structure Sweep where
  businesses : List MeteredBusiness
  orders : List Order

def checkWhatsappUsageAlerts (sweep : Sweep) (alerts : List UsageAlert) : List UsageAlert :=
  (sweep.businesses.filter (·.whatsappOrderAllowance.isSome)).foldl (checkBusiness sweep.orders)
    alerts

def Next (alerts : List UsageAlert) (sweep : Sweep) (alerts' : List UsageAlert) : Prop :=
  alerts' = checkWhatsappUsageAlerts sweep alerts

-- The usage that a run sees of a business in a billing period.
def Sees (sweep : Sweep) (businessId : Uuid) (period : Instant) (used : Nat) (allowance : Int) :
    Prop :=
  ∃ business ∈ sweep.businesses, business.id = businessId ∧
    business.billingPeriodStartedAt = period ∧
      business.whatsappOrderAllowance = some allowance ∧ ordersUsed sweep.orders business = used

def Reaches (used : Nat) (allowance threshold : Int) : Prop := threshold * allowance ≤ used * 100

-- Not a threshold's percentage, but within half a hundredth of a percent of it.
def RoundsUp (used : Nat) (allowance threshold : Int) : Prop :=
  used * 100 < threshold * allowance ∧ (200 * threshold - 1) * allowance ≤ used * 20000

def SomeRun (steps : List (Sweep × List UsageAlert)) (businessId : Uuid) (period : Instant)
    (P : Nat → Int → Prop) : Prop :=
  ∃ step ∈ steps, ∃ used allowance, Sees step.1 businessId period used allowance ∧ P used allowance

def Recorded (alerts : List UsageAlert) (businessId : Uuid) (period : Instant) (threshold : Int) :
    Prop :=
  ∃ alert ∈ alerts, alert.key = (businessId, period, threshold)

structure Exact (steps : List (Sweep × List UsageAlert)) (alerts : List UsageAlert) : Prop where
  recorded : ∀ businessId period threshold, Recorded alerts businessId period threshold ↔
    threshold ∈ usageAlertThresholds ∧
      SomeRun steps businessId period fun used allowance => Reaches used allowance threshold
  once : (alerts.map UsageAlert.key).Nodup

section Percentage

open Binary64 (nearest nearest_nonneg nearest_mono nearest_eq round_mono digits)

variable {used : Nat} {allowance threshold : Int} {x y : ℚ}

-- The percentage that a share comes to, in doubles.
def pct (share : ℚ) : ℚ := Binary64.round (Binary64.mul (nearest share) 100) 2

theorem pct_mono (hx : 0 ≤ x) (h : x ≤ y) : pct x ≤ pct y := by
  have hpos : 0 ≤ nearest x := nearest_nonneg hx
  have hle : nearest x ≤ nearest y := nearest_mono hx h
  refine round_mono (nearest_nonneg (by linarith)) (nearest_mono (by linarith) (by linarith))

-- The doubles on the way from a share of at least a half to its percentage.
theorem pct_eq (share scaled whole : ℤ) (hlow : 2 ^ (-1 : ℤ) ≤ x) (hhigh : x < 2 ^ (-1 + 1 : ℤ))
    (hshare : |x / 2 ^ (-1 + 1 - digits : ℤ) - share| < 1 / 2)
    (hlow' : 2 ^ (6 : ℤ) ≤ share * 2 ^ (-1 + 1 - digits : ℤ) * (100 : ℚ))
    (hhigh' : share * 2 ^ (-1 + 1 - digits : ℤ) * (100 : ℚ) < 2 ^ (6 + 1 : ℤ))
    (hscaled : |share * 2 ^ (-1 + 1 - digits : ℤ) * (100 : ℚ) / 2 ^ (6 + 1 - digits : ℤ) - scaled| <
      1 / 2)
    (hwhole : |scaled * 2 ^ (6 + 1 - digits : ℤ) * (10 : ℚ) ^ 2 - whole| < 1 / 2) :
    pct x = nearest (whole / 10 ^ 2) := by
  have hdivided : nearest x = share * 2 ^ (-1 + 1 - digits : ℤ) := nearest_eq hlow hhigh hshare
  have hmultiplied : Binary64.mul (nearest x) 100 = scaled * 2 ^ (6 + 1 - digits : ℤ) := by
    rw [Binary64.mul, hdivided]
    exact nearest_eq hlow' hhigh' hscaled
  rw [pct, Binary64.round, hmultiplied, Decimal.roundHalfEven_eq hwhole]

theorem nearest_intCast {n : ℤ} (hlow : 64 ≤ n) (hhigh : n < 128) : nearest n = n := by
  have hlow' : (64 : ℚ) ≤ n := by exact_mod_cast hlow
  have hhigh' : (n : ℚ) < 128 := by exact_mod_cast hhigh
  rw [nearest_eq (e := 6) (n := n * 2 ^ 46) (by norm_num; exact hlow') (by norm_num; exact hhigh')
    (by norm_num [digits]; ring_nf; norm_num)]
  norm_num [digits]
  ring

-- Half a hundredth of a percent below a threshold, the doubles come out at the threshold.
theorem pct_half_below (h : threshold ∈ usageAlertThresholds) :
    pct ((200 * threshold - 1) / 20000) = threshold := by
  have hwhole (n : ℤ) (hlow : 64 ≤ n) (hhigh : n < 128) :
      nearest ((n * 100 : ℤ) / 10 ^ 2) = n := by
    rw [show (((n * 100 : ℤ) : ℚ) / 10 ^ 2) = n by push_cast; ring, nearest_intCast hlow hhigh]
  simp only [usageAlertThresholds, List.mem_cons, List.not_mem_nil, or_false] at h
  rcases h with rfl | rfl | rfl
  · rw [pct_eq 9006748894778255 7036522574045512 (100 * 100), hwhole 100] <;> norm_num [digits]
  · rw [pct_eq 8106028969304156 6332835132268872 (90 * 100), hwhole 90] <;> norm_num [digits]
  · rw [pct_eq 7205309043830057 5629147690492232 (80 * 100), hwhole 80] <;> norm_num [digits]

-- The nearest share below that one that an allowance of 32 bits can give comes out below it.
theorem pct_below (h : threshold ∈ usageAlertThresholds) :
    pct ((200 * threshold - 1) / 20000 - 1 / (20000 * 2 ^ 31)) < threshold := by
  have hdown {n : ℤ} {x : ℚ} (hlow : 2 ^ (6 : ℤ) ≤ x) (hhigh : x < 2 ^ (6 + 1 : ℤ))
      (hx : |x / 2 ^ (6 + 1 - digits : ℤ) - n| < 1 / 2) : nearest x = n * 2 ^ (6 + 1 - digits : ℤ) :=
    nearest_eq hlow hhigh hx
  simp only [usageAlertThresholds, List.mem_cons, List.not_mem_nil, or_false] at h
  rcases h with rfl | rfl | rfl
  · rw [pct_eq 9006748894778045 7036522574045348 9999, hdown (n := 7036170730324623)] <;>
      norm_num [digits]
  · rw [pct_eq 8106028969303946 6332835132268708 8999, hdown (n := 6332483288547983)] <;>
      norm_num [digits]
  · rw [pct_eq 7205309043829847 5629147690492068 7999, hdown (n := 5628795846771343)] <;>
      norm_num [digits]

theorem exactPct_round : Binary64.round (exactPct used allowance) 2 =
    if 0 < allowance then pct (used / allowance) else 100 := by
  unfold exactPct
  split
  · rfl
  · have hwhole : Decimal.roundHalfEven (100 * 10 ^ 2) = 10000 := by
      exact_mod_cast Decimal.roundHalfEven_intCast 10000
    have hhundred : nearest 100 = 100 := by exact_mod_cast nearest_intCast (n := 100) (by norm_num) (by norm_num)
    rw [Binary64.round, hwhole]
    norm_num
    exact hhundred

theorem reaches_or_roundsUp_iff (h : 0 < allowance) :
    Reaches used allowance threshold ∨ RoundsUp used allowance threshold ↔
      (200 * threshold - 1) * allowance ≤ used * 20000 := by
  have hexpand : (200 * threshold - 1) * allowance = 200 * (threshold * allowance) - allowance := by
    ring
  unfold Reaches RoundsUp
  rw [hexpand]
  generalize threshold * allowance = product
  omega

theorem threshold_bounds (h : threshold ∈ usageAlertThresholds) :
    80 ≤ threshold ∧ threshold ≤ 100 := by
  simp only [usageAlertThresholds, List.mem_cons, List.not_mem_nil, or_false] at h
  omega

theorem threshold_le_pct_iff (h : threshold ∈ usageAlertThresholds) (hpos : 0 < allowance)
    (hmax : allowance < 2 ^ 31) : (threshold : ℚ) ≤ pct (used / allowance) ↔
      (200 * threshold - 1) * allowance ≤ used * 20000 := by
  have hpos' : (0 : ℚ) < allowance := by exact_mod_cast hpos
  have hthreshold : (80 : ℚ) ≤ threshold := by exact_mod_cast (threshold_bounds h).1
  constructor
  · intro hle
    by_contra hlt
    have hstep : (used : ℚ) * 20000 + 1 ≤ (200 * threshold - 1) * allowance := by
      exact_mod_cast (by omega : (used : Int) * 20000 + 1 ≤ (200 * threshold - 1) * allowance)
    have hinv : 1 / (20000 * 2 ^ 31 : ℚ) ≤ 1 / (20000 * allowance) := by
      refine one_div_le_one_div_of_le (by positivity) ?_
      have hmax' : (allowance : ℚ) ≤ 2 ^ 31 := by exact_mod_cast hmax.le
      linarith
    have hshare : (used : ℚ) / allowance ≤ (200 * threshold - 1) / 20000 - 1 / (20000 * 2 ^ 31) := by
      have hdiv : (used : ℚ) / allowance ≤
          (200 * threshold - 1) / 20000 - 1 / (20000 * allowance) := by
        rw [div_le_iff₀ hpos', sub_mul]
        have hone : 1 / (20000 * (allowance : ℚ)) * allowance = 1 / 20000 := by
          field_simp
        rw [hone]
        linarith
      linarith
    have hmono := pct_mono (by positivity) hshare
    exact absurd (hle.trans hmono) (not_le.mpr (pct_below h))
  · intro hle
    have hle' : (200 * (threshold : ℚ) - 1) * allowance ≤ used * 20000 := by exact_mod_cast hle
    have hshare : (200 * (threshold : ℚ) - 1) / 20000 ≤ used / allowance := by
      rw [div_le_div_iff₀ (by norm_num) hpos']
      exact hle'
    calc (threshold : ℚ) = pct ((200 * threshold - 1) / 20000) := (pct_half_below h).symm
      _ ≤ pct (used / allowance) := pct_mono (div_nonneg (by linarith) (by norm_num)) hshare

theorem threshold_le_pctUsed_iff (h : threshold ∈ usageAlertThresholds) (hmax : allowance < 2 ^ 31) :
    (threshold : ℚ) ≤ Binary64.round (exactPct used allowance) 2 ↔
      Reaches used allowance threshold ∨ RoundsUp used allowance threshold := by
  rw [exactPct_round]
  split
  next hpos => rw [threshold_le_pct_iff h hpos hmax, reaches_or_roundsUp_iff hpos]
  next hneg =>
    have hbounds := threshold_bounds h
    have hle : (threshold : ℚ) ≤ 100 := by exact_mod_cast hbounds.2
    have hreaches : Reaches used allowance threshold := by
      have hproduct : threshold * allowance ≤ 0 :=
        Int.mul_nonpos_of_nonneg_of_nonpos (by omega) (by omega)
      unfold Reaches
      omega
    exact iff_of_true hle (.inl hreaches)

end Percentage

section Loop

variable {business : MeteredBusiness} {usage : WhatsAppOrderUsage} {pctUsed : ℚ}
  {thresholds : List Int} {alerts : List UsageAlert} {businessId : Uuid} {period : Instant}
  {threshold : Int} {sweep : Sweep} {orders : List Order} {steps : List (Sweep × List UsageAlert)}

-- Where a threshold is recorded, the ones below it are.
structure Closed (alerts : List UsageAlert) : Prop where
  once : (alerts.map UsageAlert.key).Nodup
  only : ∀ alert ∈ alerts, alert.thresholdCrossed ∈ usageAlertThresholds
  below : ∀ businessId period threshold threshold', threshold' ∈ usageAlertThresholds →
    threshold' ≤ threshold → Recorded alerts businessId period threshold →
      Recorded alerts businessId period threshold'

theorem recorded_append {alert : UsageAlert} : Recorded (alerts ++ [alert]) businessId period
    threshold ↔ Recorded alerts businessId period threshold ∨
      alert.key = (businessId, period, threshold) := by
  simp [Recorded, or_and_right, exists_or]

theorem any_key_iff : (alerts.any fun alert =>
    alert.key = (alertFor business usage threshold).key) = true ↔
      Recorded alerts business.id business.billingPeriodStartedAt threshold := by
  simp [Recorded, UsageAlert.key, alertFor]

-- The thresholds that the loop still has to look at are closed downwards.
theorem recordThresholds_recorded (hsorted : thresholds.Pairwise (· > ·))
    (hbelow : ∀ threshold ∈ thresholds, ∀ threshold' ∈ thresholds, threshold' ≤ threshold →
      Recorded alerts business.id business.billingPeriodStartedAt threshold →
        Recorded alerts business.id business.billingPeriodStartedAt threshold') :
    Recorded (recordThresholds business usage pctUsed thresholds alerts) businessId period
        threshold ↔
      Recorded alerts businessId period threshold ∨
        (business.id = businessId ∧ business.billingPeriodStartedAt = period ∧
          threshold ∈ thresholds ∧ (threshold : ℚ) ≤ pctUsed) := by
  induction thresholds generalizing alerts with
  | nil => simp [recordThresholds]
  | cons first rest ih =>
      obtain ⟨hfirst, hrest⟩ := List.pairwise_cons.mp hsorted
      have htail : ∀ threshold ∈ rest, ∀ threshold' ∈ rest, threshold' ≤ threshold →
          Recorded alerts business.id business.billingPeriodStartedAt threshold →
            Recorded alerts business.id business.billingPeriodStartedAt threshold' :=
        fun t ht t' ht' => hbelow t (List.mem_cons_of_mem _ ht) t' (List.mem_cons_of_mem _ ht')
      unfold recordThresholds
      split
      next hlow =>
        rw [ih hrest htail]
        have hnot : ¬ (first : ℚ) ≤ pctUsed := not_le.mpr hlow
        refine or_congr_right (and_congr_right fun _ => and_congr_right fun _ => ?_)
        constructor
        · exact fun ⟨hmem, hle⟩ => ⟨List.mem_cons_of_mem _ hmem, hle⟩
        · rintro ⟨hmem, hle⟩
          rcases List.mem_cons.mp hmem with rfl | hmem
          · exact absurd hle hnot
          · exact ⟨hmem, hle⟩
      next hreached =>
        split
        next hany =>
          have hrecorded := any_key_iff.mp hany
          constructor
          · exact .inl
          · rintro (hold | ⟨rfl, rfl, hmem, -⟩)
            · exact hold
            · refine hbelow first List.mem_cons_self threshold hmem ?_ hrecorded
              rcases List.mem_cons.mp hmem with rfl | hmem
              · exact le_rfl
              · exact (hfirst threshold hmem).le
        next hany =>
          have hstill : ∀ threshold ∈ rest, ∀ threshold' ∈ rest, threshold' ≤ threshold →
              Recorded (alerts ++ [alertFor business usage first]) business.id
                  business.billingPeriodStartedAt threshold →
                Recorded (alerts ++ [alertFor business usage first]) business.id
                  business.billingPeriodStartedAt threshold' := by
            intro t ht t' ht' hle hrecorded
            rcases recorded_append.mp hrecorded with hold | hnew
            · exact recorded_append.mpr (.inl (htail t ht t' ht' hle hold))
            · have heq : first = t := (Prod.mk.inj (Prod.mk.inj hnew).2).2
              exact absurd (hfirst t ht) (by omega)
          rw [ih hrest hstill, recorded_append, or_assoc]
          refine or_congr_right ?_
          have hle : (first : ℚ) ≤ pctUsed := not_lt.mp hreached
          constructor
          · rintro (hnew | ⟨hid, hperiod, hmem, hle'⟩)
            · obtain ⟨hid, hrest⟩ := Prod.mk.inj hnew
              obtain ⟨hperiod, rfl⟩ := Prod.mk.inj hrest
              exact ⟨hid, hperiod, List.mem_cons_self, hle⟩
            · exact ⟨hid, hperiod, List.mem_cons_of_mem _ hmem, hle'⟩
          · rintro ⟨rfl, rfl, hmem, hle'⟩
            rcases List.mem_cons.mp hmem with rfl | hmem
            · exact .inl rfl
            · exact .inr ⟨rfl, rfl, hmem, hle'⟩

theorem recordThresholds_keys (hsub : ∀ threshold ∈ thresholds, threshold ∈ usageAlertThresholds)
    (hnodup : (alerts.map UsageAlert.key).Nodup)
    (honly : ∀ alert ∈ alerts, alert.thresholdCrossed ∈ usageAlertThresholds) :
    ((recordThresholds business usage pctUsed thresholds alerts).map UsageAlert.key).Nodup ∧
      ∀ alert ∈ recordThresholds business usage pctUsed thresholds alerts,
        alert.thresholdCrossed ∈ usageAlertThresholds := by
  induction thresholds generalizing alerts with
  | nil => exact ⟨hnodup, honly⟩
  | cons first rest ih =>
      have hrest := fun t ht => hsub t (List.mem_cons_of_mem first ht)
      unfold recordThresholds
      split
      · exact ih hrest hnodup honly
      split
      · exact ⟨hnodup, honly⟩
      next hany =>
        refine ih hrest ?_ ?_
        · rw [List.map_append, List.map_singleton, List.nodup_append]
          refine ⟨hnodup, List.nodup_singleton _, ?_⟩
          intro key hkey key' hkey' heq
          obtain ⟨alert, halert, rfl⟩ := List.mem_map.mp hkey
          obtain rfl := List.mem_singleton.mp hkey'
          exact hany (List.any_eq_true.mpr ⟨alert, halert, decide_eq_true heq⟩)
        · intro alert halert
          rcases List.mem_append.mp halert with hold | hnew
          · exact honly alert hold
          · obtain rfl := List.mem_singleton.mp hnew
            exact hsub first List.mem_cons_self

def Crosses (used : Nat) (allowance threshold : Int) : Prop :=
  Reaches used allowance threshold ∨ RoundsUp used allowance threshold

theorem thresholds_sorted : usageAlertThresholds.Pairwise (· > ·) := by decide

theorem checkBusiness_recorded (h : Closed alerts) :
    Recorded (checkBusiness orders alerts business) businessId period threshold ↔
      Recorded alerts businessId period threshold ∨
        (threshold ∈ usageAlertThresholds ∧ business.id = businessId ∧
          business.billingPeriodStartedAt = period ∧ ∃ allowance,
            business.whatsappOrderAllowance = some allowance ∧
              Crosses (ordersUsed orders business) allowance threshold) := by
  cases hallowance : business.whatsappOrderAllowance with
  | none => simp [checkBusiness, getWhatsappOrderUsage, hallowance]
  | some allowance =>
      have hmax : allowance < 2 ^ 31 := business.int4 allowance hallowance
      simp only [checkBusiness, getWhatsappOrderUsage, hallowance]
      rw [recordThresholds_recorded thresholds_sorted fun t _ t' ht' hle hrecorded =>
        h.below _ _ t t' ht' hle hrecorded]
      refine or_congr_right ?_
      constructor
      · rintro ⟨hid, hperiod, hmem, hle⟩
        exact ⟨hmem, hid, hperiod, allowance, rfl, (threshold_le_pctUsed_iff hmem hmax).mp hle⟩
      · rintro ⟨hmem, hid, hperiod, allowance', hsame, hcrosses⟩
        obtain rfl := Option.some.inj hsame
        exact ⟨hid, hperiod, hmem, (threshold_le_pctUsed_iff hmem hmax).mpr hcrosses⟩

theorem Crosses.below {used : Nat} {allowance threshold' : Int}
    (h : Crosses used allowance threshold) (hmem : threshold ∈ usageAlertThresholds)
    (hmem' : threshold' ∈ usageAlertThresholds) (hle : threshold' ≤ threshold)
    (hmax : allowance < 2 ^ 31) : Crosses used allowance threshold' := by
  have hpct := (threshold_le_pctUsed_iff hmem hmax).mpr h
  have hle' : (threshold' : ℚ) ≤ threshold := by exact_mod_cast hle
  exact (threshold_le_pctUsed_iff hmem' hmax).mp (hle'.trans hpct)

theorem closed_checkBusiness (h : Closed alerts) : Closed (checkBusiness orders alerts business) := by
  have hkeys : ((checkBusiness orders alerts business).map UsageAlert.key).Nodup ∧
      ∀ alert ∈ checkBusiness orders alerts business,
        alert.thresholdCrossed ∈ usageAlertThresholds := by
    unfold checkBusiness
    dsimp only
    split
    · exact ⟨h.once, h.only⟩
    · exact recordThresholds_keys (fun _ hmem => hmem) h.once h.only
  refine ⟨hkeys.1, hkeys.2, fun id start t t' ht' hle hrecorded => ?_⟩
  rw [checkBusiness_recorded h] at hrecorded ⊢
  rcases hrecorded with hold | ⟨hmem, hid, hstart, allowance, hallowance, hcrosses⟩
  · exact .inl (h.below id start t t' ht' hle hold)
  · exact .inr ⟨ht', hid, hstart, allowance, hallowance,
      hcrosses.below hmem ht' hle (business.int4 allowance hallowance)⟩

theorem foldl_recorded {businesses : List MeteredBusiness} (h : Closed alerts) :
    Closed (businesses.foldl (checkBusiness orders) alerts) ∧ ∀ businessId period threshold,
      (Recorded (businesses.foldl (checkBusiness orders) alerts) businessId period threshold ↔
        Recorded alerts businessId period threshold ∨
          (threshold ∈ usageAlertThresholds ∧ ∃ business ∈ businesses, business.id = businessId ∧
            business.billingPeriodStartedAt = period ∧ ∃ allowance,
              business.whatsappOrderAllowance = some allowance ∧
                Crosses (ordersUsed orders business) allowance threshold)) := by
  induction businesses generalizing alerts with
  | nil => exact ⟨h, by simp⟩
  | cons business businesses ih =>
      have hfirst : Closed (checkBusiness orders alerts business) := closed_checkBusiness h
      obtain ⟨hclosed, hrecorded⟩ := ih hfirst
      refine ⟨hclosed, fun businessId period threshold => ?_⟩
      rw [List.foldl_cons, hrecorded, checkBusiness_recorded h, or_assoc]
      refine or_congr_right ?_
      simp only [List.mem_cons, exists_eq_or_imp, ← and_or_left]

theorem sweep_recorded (h : Closed alerts) : Closed (checkWhatsappUsageAlerts sweep alerts) ∧
    ∀ businessId period threshold,
      (Recorded (checkWhatsappUsageAlerts sweep alerts) businessId period threshold ↔
        Recorded alerts businessId period threshold ∨
          (threshold ∈ usageAlertThresholds ∧ ∃ used allowance,
            Sees sweep businessId period used allowance ∧ Crosses used allowance threshold)) := by
  obtain ⟨hclosed, hrecorded⟩ := foldl_recorded h
  refine ⟨hclosed, fun businessId period threshold =>
    (hrecorded businessId period threshold).trans (or_congr_right (and_congr_right fun _ => ?_))⟩
  constructor
  · rintro ⟨business, hmem, hid, hperiod, allowance, hallowance, hcrosses⟩
    exact ⟨_, allowance, ⟨business, List.mem_of_mem_filter hmem, hid, hperiod, hallowance, rfl⟩,
      hcrosses⟩
  · rintro ⟨_, allowance, ⟨business, hmem, hid, hperiod, hallowance, rfl⟩, hcrosses⟩
    exact ⟨business, List.mem_filter.mpr ⟨hmem, by simp [hallowance]⟩, hid, hperiod, allowance,
      hallowance, hcrosses⟩

theorem run_recorded (hrun : Run.Along Next [] steps) :
    Closed (Run.last [] steps) ∧ ∀ businessId period threshold,
      (Recorded (Run.last [] steps) businessId period threshold ↔
        threshold ∈ usageAlertThresholds ∧ SomeRun steps businessId period fun used allowance =>
          Crosses used allowance threshold) := by
  induction steps using List.reverseRecOn with
  | nil =>
      refine ⟨⟨List.nodup_nil, by simp [Run.last], ?_⟩, ?_⟩
      · simp [Run.last, Recorded]
      · simp [Run.last, Recorded, SomeRun]
  | append_singleton steps step ih =>
      obtain ⟨sweep, alerts⟩ := step
      obtain ⟨hsteps, hnext⟩ := Run.along_snoc.mp hrun
      obtain ⟨hclosed, hrecorded⟩ := ih hsteps
      have hlast : Run.last [] (steps ++ [(sweep, alerts)]) =
          checkWhatsappUsageAlerts sweep (Run.last [] steps) := by
        rw [Run.last_append, ← hnext]
        rfl
      rw [hlast]
      refine ⟨(sweep_recorded hclosed).1, fun businessId period threshold => ?_⟩
      rw [(sweep_recorded hclosed).2, hrecorded, ← and_or_left]
      refine and_congr_right fun _ => ?_
      simp only [SomeRun, List.mem_append, List.mem_singleton, or_and_right, exists_or,
        exists_eq_left]

theorem alerts_exact_iff (hrun : Run.Along Next [] steps) :
    Exact steps (Run.last [] steps) ↔ ∀ businessId period, ∀ threshold ∈ usageAlertThresholds,
      (SomeRun steps businessId period fun used allowance => RoundsUp used allowance threshold) →
        SomeRun steps businessId period fun used allowance => Reaches used allowance threshold := by
  obtain ⟨hclosed, hrecorded⟩ := run_recorded hrun
  constructor
  · rintro h businessId period threshold hmem ⟨step, hstep, used, allowance, hsees, hrounds⟩
    exact ((h.recorded businessId period threshold).mp ((hrecorded businessId period threshold).mpr
      ⟨hmem, step, hstep, used, allowance, hsees, .inr hrounds⟩)).2
  · intro h
    refine ⟨fun businessId period threshold => ?_, hclosed.once⟩
    rw [hrecorded]
    refine and_congr_right fun hmem => ⟨?_, ?_⟩
    · rintro ⟨step, hstep, used, allowance, hsees, hreaches | hrounds⟩
      · exact ⟨step, hstep, used, allowance, hsees, hreaches⟩
      · exact h businessId period threshold hmem ⟨step, hstep, used, allowance, hsees, hrounds⟩
    · rintro ⟨step, hstep, used, allowance, hsees, hreaches⟩
      exact ⟨step, hstep, used, allowance, hsees, .inl hreaches⟩

end Loop

def plan (allowance : Int) (h : allowance < 2 ^ 31) : MeteredBusiness where
  id := 1
  whatsappOrderAllowance := some allowance
  int4 := fun _ hsome => Option.some.inj hsome ▸ h

def collected : Order where
  id := 1
  businessId := 1
  customerId := none
  orderNumber := "1"
  status := .collected
  paymentStatus := .paid
  orderMode := .pickup
  source := .whatsapp
  subtotalCents := 5000
  deliveryFeeCents := 0
  totalCents := 5000
  currency := "ZAR"

def sweepOf (used : Nat) (allowance : Int) (h : allowance < 2 ^ 31) : Sweep where
  businesses := [plan allowance h]
  orders := List.replicate used collected

theorem sees_sweepOf {used used' : Nat} {allowance allowance' : Int} {h : allowance < 2 ^ 31}
    {businessId : Uuid} {period : Instant} :
    Sees (sweepOf used allowance h) businessId period used' allowance' ↔
      businessId = 1 ∧ period = 0 ∧ allowance' = allowance ∧ used' = used := by
  have hused : ordersUsed (sweepOf used allowance h).orders (plan allowance h) = used := by
    simp [ordersUsed, sweepOf, List.countP_replicate, placed, plan, collected,
      whatsappBillableStatuses]
  unfold Sees
  constructor
  · rintro ⟨business, hmem, rfl, rfl, hallowance, rfl⟩
    obtain rfl := List.mem_singleton.mp hmem
    exact ⟨rfl, rfl, (Option.some.inj hallowance).symm, hused⟩
  · rintro ⟨rfl, rfl, rfl, rfl⟩
    exact ⟨plan allowance' h, List.mem_singleton_self _, rfl, rfl, rfl, hused⟩

def stepOf (used : Nat) (allowance : Int) (h : allowance < 2 ^ 31) : Sweep × List UsageAlert :=
  (sweepOf used allowance h, checkWhatsappUsageAlerts (sweepOf used allowance h) [])

theorem nine_of_ten_recorded :
    Exact [stepOf 9 10 (by decide)] (checkWhatsappUsageAlerts (sweepOf 9 10 (by decide)) []) := by
  have hrun : Run.Along Next [] [stepOf 9 10 (by decide)] := ⟨rfl, trivial⟩
  refine (alerts_exact_iff hrun).mpr ?_
  rintro businessId period threshold hmem ⟨step, hstep, used, allowance, hsees, hrounds⟩
  obtain rfl := List.mem_singleton.mp hstep
  obtain ⟨-, -, rfl, rfl⟩ := sees_sweepOf.mp hsees
  obtain ⟨hlow, hhigh⟩ := hrounds
  have hbounds := threshold_bounds hmem
  omega

-- 1808 of 2009 orders are not ninety percent of them.
theorem unreached_ninety_recorded : ¬ ∀ steps : List (Sweep × List UsageAlert),
    Run.Along Next [] steps → Exact steps (Run.last [] steps) := by
  intro h
  have hrun : Run.Along Next [] [stepOf 1808 2009 (by decide)] := ⟨rfl, trivial⟩
  have hrecorded := ((run_recorded hrun).2 1 0 90).mpr ⟨by decide, stepOf 1808 2009 (by decide),
    List.mem_singleton_self _, 1808, 2009, sees_sweepOf.mpr ⟨rfl, rfl, rfl, rfl⟩,
    .inr ⟨by decide, by decide⟩⟩
  obtain ⟨-, step, hstep, used, allowance, hsees, hreaches⟩ :=
    ((h _ hrun).recorded 1 0 90).mp hrecorded
  obtain rfl := List.mem_singleton.mp hstep
  obtain ⟨-, -, rfl, rfl⟩ := sees_sweepOf.mp hsees
  unfold Reaches at hreaches
  omega

end NextgenBackend.Billing
