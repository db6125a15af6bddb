import NextgenBackend.Billing.Lifecycle
import NextgenBackend.Bot.UsageTracker

namespace NextgenBackend.Billing.OrderQuota

open NextgenBackend.Bot (addUsage upsertUsage)

structure QuotaBusiness extends Business where
  monthlyOrderQuota : Int
  orderPackCredits : Int

structure OrderQuotaStatus where
  quota : Int
  packCredits : Int
  used : Int
  remaining : Int
  periodStartedAt : String

-- Stored moments are read back in universal time.
def utcDate (moment : Instant) : Int := (moment / Time.day : ℕ)

def usedSince (businessId : Uuid) (since : Int) (t : Tables) : Int :=
  ((t.dailyUsage.filter fun usage => usage.businessId = businessId ∧ since ≤ usage.day).map
    fun usage => usage.counts.ordersCreated).sum

def getOrderQuotaStatus (t : Tables) (business : QuotaBusiness) : OrderQuotaStatus :=
  let used := usedSince business.id (utcDate business.billingPeriodStartedAt) t
  let totalAllowance := business.monthlyOrderQuota + business.orderPackCredits
  { quota := business.monthlyOrderQuota
    packCredits := business.orderPackCredits
    used := used
    remaining := max 0 (totalAllowance - used)
    periodStartedAt := Time.isoText business.billingPeriodStartedAt }

inductive Event where
  | orderCounted (revenueCents : Cents)
  | invoicePaid

structure State where
  tables : Tables
  business : QuotaBusiness

section Runs

-- Which calendar day a moment falls on in a time zone.
variable (localDate : String → Instant → Int)

def step (s : State) (now : Instant) : Event → State
  | .orderCounted revenueCents =>
      { s with
        tables := upsertUsage s.business.id (localDate s.business.timezone now)
          { ordersCreated := 1, revenueCents := revenueCents } s.tables }
  | .invoicePaid =>
      { s with business := { s.business with toBusiness := activate now s.business.toBusiness } }

def used (s : State) : Int := (getOrderQuotaStatus s.tables s.business).used

-- The used figure of every period as it stands when the period ends, or last.
def figures (s : State) : List (Instant × Event) → List Int
  | [] => [used s]
  | (now, .orderCounted revenueCents) :: run =>
      figures (step localDate s now (.orderCounted revenueCents)) run
  | (now, .invoicePaid) :: run => used s :: figures (step localDate s now .invoicePaid) run

def orders : List (Instant × Event) → ℕ
  | [] => 0
  | (_, .orderCounted _) :: run => orders run + 1
  | (_, .invoicePaid) :: run => orders run

-- The figure of a period that counts an order is one higher than it would be without the order.
def Charged (s : State) (before after : List (Instant × Event)) (order : Instant × Event) (k : ℕ) :
    Prop :=
  ∃ n, (figures localDate s (before ++ after))[k]? = some n ∧
    (figures localDate s (before ++ order :: after))[k]? = some (n + 1)

-- Each order is used once, and the figures add up to the orders.
def ChargedOnce (s : State) (run : List (Instant × Event)) : Prop :=
  (∀ before now revenueCents after, run = before ++ (now, .orderCounted revenueCents) :: after →
      ∃! k, Charged localDate s before after (now, .orderCounted revenueCents) k) ∧
    (figures localDate s run).sum = orders run

def periodStarts (run : List (Instant × Event)) : List Instant :=
  run.filterMap fun (now, event) => match event with
    | .orderCounted _ => none
    | .invoicePaid => some now

-- The local day of an order lies between the universal days on which its period starts and ends.
def InPeriods (timezone : String) : Instant → List (Instant × Event) → Prop
  | _, [] => True
  | start, (now, .orderCounted _) :: run =>
      utcDate start ≤ localDate timezone now ∧
        (∀ next ∈ (periodStarts run).head?, localDate timezone now < utcDate next) ∧
          InPeriods timezone start run
  | _, (now, .invoicePaid) :: run => InPeriods timezone now run

end Runs

section Usage

variable {t : Tables} {businessId : Uuid} {since day : Int} {counts : UsageCounts}

def weight (businessId : Uuid) (since : Int) (usage : DailyUsage) : Int :=
  if usage.businessId = businessId ∧ since ≤ usage.day then usage.counts.ordersCreated else 0

theorem usedSince_eq : usedSince businessId since t =
    (t.dailyUsage.map (weight businessId since)).sum := by
  unfold usedSince
  induction t.dailyUsage with
  | nil => rfl
  | cons usage usages ih =>
      rw [List.filter_cons, List.map_cons, List.sum_cons, ← ih, weight]
      split_ifs with h h' h'
      · rw [List.map_cons, List.sum_cons]
      · exact absurd (of_decide_eq_true h) h'
      · exact absurd (decide_eq_true h') h
      · rw [zero_add]

theorem usedSince_upsertUsage (hpk : t.dailyUsage.PrimaryKey) :
    usedSince businessId since (upsertUsage businessId day counts t) =
      usedSince businessId since t + if since ≤ day then counts.ordersCreated else 0 := by
  rw [usedSince_eq, usedSince_eq]
  unfold upsertUsage
  split
  next hnone =>
    simp [Table.insert, weight]
  next usage hsome =>
    have hkey : (usage.businessId, usage.day) = (businessId, day) := Table.lookup_key hsome
    obtain ⟨rfl, rfl⟩ := Prod.mk.inj hkey
    rw [Table.sum_modify hpk hsome]
    simp only [weight, addUsage, Bot.UsageCounts.add, true_and]
    split_ifs <;> omega

theorem primaryKey_upsertUsage (hpk : t.dailyUsage.PrimaryKey) :
    (upsertUsage businessId day counts t).dailyUsage.PrimaryKey := by
  unfold upsertUsage
  split
  next hnone => exact Table.primaryKey_insert.mpr ⟨hpk, hnone⟩
  next =>
    have hkey (usage : DailyUsage) : key (addUsage counts usage) = key usage := rfl
    exact (Table.primaryKey_modify hkey).mpr hpk

end Usage

section Figures

variable {localDate : String → Instant → Int} {timezone : String} {s s' : State} {run after : List (Instant × Event)}
  {day : Int} {now start : Instant} {event : Event} {k : ℕ} {revenueCents : Cents}

def Sound (s : State) : Prop := s.tables.dailyUsage.PrimaryKey

theorem sound_step (h : Sound s) : Sound (step localDate s now event) := by
  cases event with
  | orderCounted revenueCents => exact primaryKey_upsertUsage h
  | invoicePaid => exact h

-- The same but for one order more on a day.
structure More (day : Int) (s s' : State) : Prop where
  business : s'.business = s.business
  used : ∀ since, usedSince s.business.id since s'.tables =
    usedSince s.business.id since s.tables + if since ≤ day then 1 else 0

theorem more_order (h : Sound s) : More (localDate s.business.timezone now) s
    (step localDate s now (.orderCounted revenueCents)) :=
  ⟨rfl, fun _ => usedSince_upsertUsage h⟩

theorem More.step (hs : Sound s) (hs' : Sound s') (h : More day s s') :
    More day (step localDate s now event) (step localDate s' now event) := by
  obtain ⟨hbusiness, hused⟩ := h
  cases event with
  | orderCounted revenueCents =>
      refine ⟨hbusiness, fun since => ?_⟩
      simp only [OrderQuota.step, hbusiness]
      rw [usedSince_upsertUsage hs, usedSince_upsertUsage hs', hused]
      omega
  | invoicePaid =>
      refine ⟨?_, hused⟩
      simp only [OrderQuota.step, hbusiness]

def flags (day : Int) (start : Instant) (run : List (Instant × Event)) : List Int :=
  (start :: periodStarts run).map fun start => if utcDate start ≤ day then 1 else 0

theorem figures_more (hs : Sound s) (hs' : Sound s') (h : More day s s') :
    figures localDate s' run = List.zipWith (· + ·) (figures localDate s run)
      (flags day s.business.billingPeriodStartedAt run) := by
  induction run generalizing s s' with
  | nil =>
      have hused := h.used (utcDate s.business.billingPeriodStartedAt)
      simp [figures, flags, periodStarts, used, getOrderQuotaStatus, h.business, hused]
  | cons entry run ih =>
      obtain ⟨now, event⟩ := entry
      cases event with
      | orderCounted revenueCents => exact ih (sound_step hs) (sound_step hs') (h.step hs hs')
      | invoicePaid =>
          have hused := h.used (utcDate s.business.billingPeriodStartedAt)
          have hmore : More day (step localDate s now .invoicePaid)
              (step localDate s' now .invoicePaid) := h.step hs hs'
          rw [figures, ih (sound_step hs) (sound_step hs') hmore]
          simp [figures, flags, periodStarts, used, getOrderQuotaStatus, h.business, hused, step,
            activate]

theorem length_figures : (figures localDate s run).length = (periodStarts run).length + 1 := by
  induction run generalizing s with
  | nil => rfl
  | cons entry run ih =>
      obtain ⟨now, _ | _⟩ := entry
      · exact ih
      · exact congrArg (· + 1) ih

theorem charged_iff (hs : Sound s) :
    Charged localDate s [] after (now, .orderCounted revenueCents) k ↔
      ∃ start, (s.business.billingPeriodStartedAt :: periodStarts after)[k]? = some start ∧
        utcDate start ≤ localDate s.business.timezone now := by
  have hwith : figures localDate s ((now, .orderCounted revenueCents) :: after) =
      List.zipWith (· + ·) (figures localDate s after)
        (flags (localDate s.business.timezone now) s.business.billingPeriodStartedAt after) :=
    figures_more hs (sound_step hs) (more_order hs)
  unfold Charged
  rw [List.nil_append, List.nil_append, hwith]
  simp only [List.getElem?_zipWith_eq_some, flags, List.getElem?_map, Option.map_eq_some_iff]
  constructor
  · rintro ⟨n, hn, m, flag, hm, ⟨start, hstart, rfl⟩, hsum⟩
    obtain rfl := Option.some.inj (hn.symm.trans hm)
    refine ⟨start, hstart, ?_⟩
    split_ifs at hsum with hle
    · exact hle
    · omega
  · rintro ⟨start, hstart, hle⟩
    have hlt : k < (figures localDate s after).length := by
      rw [length_figures]
      exact (List.getElem?_eq_some_iff.mp hstart).1
    refine ⟨_, List.getElem?_eq_getElem hlt, _, 1, List.getElem?_eq_getElem hlt,
      ⟨start, hstart, if_pos hle⟩, rfl⟩

theorem utcDate_mono {a b : Instant} (h : a ≤ b) : utcDate a ≤ utcDate b :=
  Int.ofNat_le.mpr (Nat.div_le_div_right h)

-- In falling order of the days, just one is reached where the first is and the next is not.
theorem existsUnique_start_iff {starts : List Instant} (h : (start :: starts).Pairwise (· ≤ ·)) :
    (∃! k : ℕ, ∃ reached, (start :: starts)[k]? = some reached ∧ utcDate reached ≤ day) ↔
      utcDate start ≤ day ∧ ∀ next ∈ starts.head?, day < utcDate next := by
  obtain ⟨hfirst, hrest⟩ := List.pairwise_cons.mp h
  constructor
  · rintro ⟨k, ⟨reached, hk, hle⟩, hunique⟩
    have hstart : utcDate start ≤ day := by
      refine (utcDate_mono ?_).trans hle
      rcases List.mem_cons.mp (List.mem_of_getElem? hk) with rfl | hmem
      · exact le_rfl
      · exact hfirst reached hmem
    refine ⟨hstart, fun next hnext => not_le.mp fun hreached => ?_⟩
    obtain ⟨starts', rfl⟩ := List.head?_eq_some_iff.mp hnext
    have hzero := hunique 0 ⟨start, rfl, hstart⟩
    have hone := hunique 1 ⟨next, rfl, hreached⟩
    omega
  · rintro ⟨hstart, hnext⟩
    refine ⟨0, ⟨start, rfl, hstart⟩, ?_⟩
    rintro (_ | k) ⟨reached, hk, hle⟩
    · rfl
    · cases starts with
      | nil => cases hk
      | cons next starts =>
          have hk' : (next :: starts)[k]? = some reached := hk
          have hbefore : next ≤ reached := by
            rcases List.mem_cons.mp (List.mem_of_getElem? hk') with rfl | hmem
            · exact le_rfl
            · exact (List.pairwise_cons.mp hrest).1 reached hmem
          exact absurd ((utcDate_mono hbefore).trans hle) (hnext next rfl).not_ge

-- The moments of a run, from the one at which its first period starts.
def InOrder (start : Instant) (run : List (Instant × Event)) : Prop :=
  (start :: run.map (·.1)).Pairwise (· ≤ ·)

instance : Decidable (InOrder start run) := inferInstanceAs (Decidable (List.Pairwise _ _))

theorem periodStarts_sublist : (periodStarts run).Sublist (run.map (·.1)) := by
  induction run with
  | nil => exact .slnil
  | cons entry run ih =>
      obtain ⟨now, _ | _⟩ := entry
      · exact ih.cons _
      · exact ih.cons_cons _

theorem InOrder.tail {entry : Instant × Event} (h : InOrder start (entry :: run)) :
    InOrder start run ∧ InOrder entry.1 run :=
  ⟨h.sublist (.cons_cons _ (.cons _ (.refl _))), (List.pairwise_cons.mp h).2⟩

theorem existsUnique_succ {p q : ℕ → Prop} (hzero : ¬ p 0) (hsucc : ∀ k, p (k + 1) ↔ q k) :
    (∃! k, p k) ↔ ∃! k, q k := by
  constructor
  · rintro ⟨k, hk, hunique⟩
    cases k with
    | zero => exact absurd hk hzero
    | succ k =>
        exact ⟨k, (hsucc k).mp hk, fun j hj => Nat.succ.inj (hunique (j + 1) ((hsucc j).mpr hj))⟩
  · rintro ⟨k, hk, hunique⟩
    refine ⟨k + 1, (hsucc k).mpr hk, ?_⟩
    rintro (_ | j) hj
    · exact absurd hj hzero
    · exact congrArg (· + 1) (hunique j ((hsucc j).mp hj))

theorem existsUnique_charged_invoicePaid {before : List (Instant × Event)} {order : Instant × Event} :
    (∃! k, Charged localDate s ((now, .invoicePaid) :: before) after order k) ↔
      ∃! k, Charged localDate (step localDate s now .invoicePaid) before after order k := by
  refine existsUnique_succ ?_ fun k => Iff.rfl
  rintro ⟨n, hn, hn'⟩
  have hsame := hn.symm.trans hn'
  simp at hsame

theorem charged_once_iff (hs : Sound s) (h : InOrder s.business.billingPeriodStartedAt run) :
    (∀ before now revenueCents after,
        run = before ++ (now, .orderCounted revenueCents) :: after →
          ∃! k, Charged localDate s before after (now, .orderCounted revenueCents) k) ↔
      InPeriods localDate s.business.timezone s.business.billingPeriodStartedAt run := by
  induction run generalizing s with
  | nil => simp [InPeriods]
  | cons entry run ih =>
      obtain ⟨now, event⟩ := entry
      cases event with
      | orderCounted revenueCents =>
          have hrest := ih (s := step localDate s now (.orderCounted revenueCents))
            (sound_step hs) h.tail.1
          have hstarts : (s.business.billingPeriodStartedAt :: periodStarts run).Pairwise (· ≤ ·) :=
            h.tail.1.sublist (periodStarts_sublist.cons_cons _)
          have hcharged (k : ℕ) :
              Charged localDate s [] run (now, .orderCounted revenueCents) k ↔ _ := charged_iff hs
          have hhere := (existsUnique_congr hcharged).trans (existsUnique_start_iff hstarts)
          rw [InPeriods, ← and_assoc]
          constructor
          · intro hall
            refine ⟨hhere.mp (hall [] now revenueCents run rfl), hrest.mp ?_⟩
            rintro before now' revenueCents' after rfl
            exact hall (_ :: before) now' revenueCents' after rfl
          · rintro ⟨hfirst, hlater⟩ (_ | ⟨entry, before⟩) now' revenueCents' after heq
            · obtain ⟨hentry, rfl⟩ := List.cons.inj heq
              obtain ⟨rfl, hevent⟩ := Prod.mk.inj hentry
              obtain rfl := Event.orderCounted.inj hevent
              exact hhere.mpr hfirst
            · obtain ⟨rfl, rfl⟩ := List.cons.inj heq
              exact hrest.mpr hlater before now' revenueCents' after rfl
      | invoicePaid =>
          have hrest := ih (s := step localDate s now .invoicePaid) (sound_step hs) h.tail.2
          rw [InPeriods]
          refine Iff.trans ⟨fun hall => ?_, fun hall => ?_⟩ hrest
          · rintro before now' revenueCents' after rfl
            exact existsUnique_charged_invoicePaid.mp
              (hall (_ :: before) now' revenueCents' after rfl)
          · rintro (_ | ⟨entry, before⟩) now' revenueCents' after heq
            · obtain ⟨hentry, -⟩ := List.cons.inj heq
              cases hentry
            · obtain ⟨rfl, rfl⟩ := List.cons.inj heq
              exact existsUnique_charged_invoicePaid.mpr
                (hall before now' revenueCents' after rfl)

-- How often the orders of a run are used, period by period.
def charges (localDate : String → Instant → Int) (timezone : String) :
    Instant → List (Instant × Event) → Int
  | _, [] => 0
  | start, (now, .orderCounted _) :: run =>
      (flags (localDate timezone now) start run).sum + charges localDate timezone start run
  | _, (now, .invoicePaid) :: run => charges localDate timezone now run

theorem length_flags : (flags day start run).length = (periodStarts run).length + 1 := by
  rw [flags, List.length_map, List.length_cons]

theorem sum_figures (hs : Sound s) : (figures localDate s run).sum =
    ((s.business.billingPeriodStartedAt :: periodStarts run).map fun start =>
        usedSince s.business.id (utcDate start) s.tables).sum +
      charges localDate s.business.timezone s.business.billingPeriodStartedAt run := by
  induction run generalizing s with
  | nil => simp [figures, periodStarts, charges, used, getOrderQuotaStatus]
  | cons entry run ih =>
      obtain ⟨now, event⟩ := entry
      cases event with
      | orderCounted revenueCents =>
          have hwith : figures localDate s ((now, .orderCounted revenueCents) :: run) =
              List.zipWith (· + ·) (figures localDate s run)
                (flags (localDate s.business.timezone now) s.business.billingPeriodStartedAt run) :=
            figures_more hs (sound_step hs) (more_order hs)
          have hlength : (figures localDate s run).length = (flags
              (localDate s.business.timezone now) s.business.billingPeriodStartedAt run).length := by
            rw [length_figures, length_flags]
          rw [hwith, ← List.sum_add_sum_eq_sum_zipWith_of_length_eq _ _ hlength, ih hs, charges]
          have hstarts : periodStarts ((now, .orderCounted revenueCents) :: run) =
              periodStarts run := rfl
          rw [hstarts]
          omega
      | invoicePaid =>
          have hrest := ih (s := step localDate s now .invoicePaid) (sound_step hs)
          have hstarts : periodStarts ((now, .invoicePaid) :: run) = now :: periodStarts run := rfl
          rw [figures, List.sum_cons, hrest, charges, hstarts, List.map_cons, List.sum_cons]
          simp [step, activate, used, getOrderQuotaStatus]
          omega

theorem sum_flags (h : InOrder start run) (hstart : utcDate start ≤ day)
    (hnext : ∀ next ∈ (periodStarts run).head?, day < utcDate next) :
    (flags day start run).sum = 1 := by
  have hstarts : (periodStarts run).Pairwise (· ≤ ·) :=
    (List.pairwise_cons.mp h).2.sublist periodStarts_sublist
  have hlater : ∀ later ∈ periodStarts run, ¬ utcDate later ≤ day := by
    intro later hlater
    cases hrun : periodStarts run with
    | nil =>
        rw [hrun] at hlater
        cases hlater
    | cons next starts =>
        rw [hrun] at hnext hlater hstarts
        refine (lt_of_lt_of_le (hnext next rfl) (utcDate_mono ?_)).not_ge
        rcases List.mem_cons.mp hlater with rfl | hmem
        · exact le_rfl
        · exact (List.pairwise_cons.mp hstarts).1 later hmem
  rw [flags, List.map_cons, if_pos hstart, List.sum_cons, List.sum_eq_zero, add_zero]
  intro flag hflag
  obtain ⟨later, hmem, rfl⟩ := List.mem_map.mp hflag
  exact if_neg (hlater later hmem)

theorem charges_eq (h : InOrder start run) (hin : InPeriods localDate timezone start run) :
    charges localDate timezone start run = orders run := by
  induction run generalizing start with
  | nil => rfl
  | cons entry run ih =>
      obtain ⟨now, _ | _⟩ := entry
      · obtain ⟨hstart, hnext, hrest⟩ := hin
        rw [charges, sum_flags h.tail.1 hstart hnext, ih h.tail.1 hrest, orders]
        push_cast
        omega
      · exact ih h.tail.2 hin

theorem usedSince_of_fresh {t : Tables} {businessId : Uuid} {since : Int}
    (h : ∀ usage ∈ t.dailyUsage, usage.businessId ≠ businessId) :
    usedSince businessId since t = 0 := by
  rw [usedSince_eq]
  refine List.sum_eq_zero fun used hused => ?_
  obtain ⟨usage, hmem, rfl⟩ := List.mem_map.mp hused
  exact if_neg fun hmatch => h usage hmem hmatch.1

-- A business that has no usage yet.
theorem usage_charged_once_iff (localDate : String → Instant → Int)
    (hkeys : s.tables.dailyUsage.PrimaryKey)
    (hfresh : ∀ usage ∈ s.tables.dailyUsage, usage.businessId ≠ s.business.id)
    (horder : InOrder s.business.billingPeriodStartedAt run) :
    ChargedOnce localDate s run ↔
      InPeriods localDate s.business.timezone s.business.billingPeriodStartedAt run := by
  rw [ChargedOnce, charged_once_iff hkeys horder]
  refine and_iff_left_of_imp fun hin => ?_
  rw [sum_figures hkeys, charges_eq horder hin]
  simp [usedSince_of_fresh hfresh]

end Figures

section Johannesburg

-- Two hours ahead of universal time.
def johannesburg (_ : String) (now : Instant) : Int := ((now + 2 * 60 * Time.minute) / Time.day : ℕ)

def bistro : State where
  tables := {}
  business := { id := 1, monthlyOrderQuota := 1500, orderPackCredits := 0 }

def hours (days hours : ℕ) : Instant := days * Time.day + hours * 60 * Time.minute

-- An order in the morning; the next period begins at noon of the next day.
theorem usage_charged_once_iff_bistro :
    ChargedOnce johannesburg bistro
        [(hours 20 10, .orderCounted 9900), (hours 21 12, .invoicePaid)] ↔
      InPeriods johannesburg bistro.business.timezone bistro.business.billingPeriodStartedAt
        [(hours 20 10, .orderCounted 9900), (hours 21 12, .invoicePaid)] :=
  usage_charged_once_iff johannesburg (by decide) nofun (by decide)

-- Where it begins at noon of the same day, the order is used in both periods.
theorem order_charged_twice :
    figures johannesburg bistro [(hours 20 10, .orderCounted 9900), (hours 20 12, .invoicePaid)] =
        [1, 1] ∧
      ¬ ChargedOnce johannesburg bistro
        [(hours 20 10, .orderCounted 9900), (hours 20 12, .invoicePaid)] := by
  have hfigures : figures johannesburg bistro
      [(hours 20 10, .orderCounted 9900), (hours 20 12, .invoicePaid)] = [1, 1] := by
    decide +kernel
  refine ⟨hfigures, fun h => ?_⟩
  have hsum := h.2
  rw [hfigures] at hsum
  exact absurd hsum (by decide)

end Johannesburg

end NextgenBackend.Billing.OrderQuota
