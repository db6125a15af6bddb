import NextgenBackend.Library.Tracking
import NextgenBackend.Loyalty.PointsLedger

namespace NextgenBackend.AdjustmentTwins

open Txn RelyGuarantee Interleaving Loyalty PointsLedger

def Appends (f : Pending) : Prop :=
  ∀ t, t.loyaltyTransactions <+: (f t).loyaltyTransactions

theorem appends_neutral : Neutral Appends where
  id _ := List.prefix_rfl
  comp f _ hf hg t := (hf t).trans (hg (f t))

-- Rows of the ledger stay where they are, whoever commits.
def ledgerGrows : Discipline Database RowKey CommitSite where
  inv _ := True
  rely _ db db' := db.loyaltyTransactions <+: db'.loyaltyTransactions
  guar _ db db' := db.loyaltyTransactions <+: db'.loyaltyTransactions
  admits _ _ := True
  rely_refl _ _ := List.prefix_rfl
  rely_trans _ _ _ _ h h' := h.trans h'
  rely_anti _ _ _ _ _ h := h
  guar_inv _ _ _ _ _ := trivial
  guar_rely _ _ _ _ _ _ h := h

def applied (businessId : Uuid) (key : String) (t : Tables) : List LoyaltyTransaction :=
  t.loyaltyTransactions.filter fun x =>
    x.businessId = businessId ∧ x.idempotencyKey = some (.adjust key)

-- One of the requests of a form that is submitted more than once.
structure Twin (businessId customerId : Uuid) (body : RoutesLoyalty.LoyaltyAdjustmentRequest)
    (request : Request) : Prop where
  sent : ∃ user : AuthUser, user.businessId = businessId ∧
    (user.role = .owner ∨ user.role = .manager) ∧
      request = .adjustCustomerPoints user customerId body

-- The ledger has the key for this adjustment only.
def Unused (businessId customerId : Uuid) (body : RoutesLoyalty.LoyaltyAdjustmentRequest)
    (key : String) (db : Database) : Prop :=
  ∀ row ∈ applied businessId key db.toTables,
    row.customerId = customerId ∧ row.pointsDelta = body.pointsDelta

-- What a request is refused for, in the state it finds and with the locks it has there.
structure Passes (businessId customerId : Uuid) (body : RoutesLoyalty.LoyaltyAdjustmentRequest)
    (L : Set RowKey) (db : Database) : Prop where
  moves : body.pointsDelta ≠ 0
  enabled : ∃ b, db.businesses.lookup businessId = some b ∧ b.loyaltyEnabled = true
  known : ∃ c, db.customers.lookup customerId = some c ∧ c.businessId = businessId
  affordable : RowKey.customer customerId ∈ L →
    0 ≤ balanceOf customerId db.toTables + body.pointsDelta

section Ledger

variable {db db' : Database} {businessId customerId : Uuid} {key : String} {t t' : Tables}
  {row : LoyaltyTransaction}

theorem applied_grows (h : t.loyaltyTransactions <+: t'.loyaltyTransactions) :
    applied businessId key t <+: applied businessId key t' :=
  h.filter _

theorem applied_length : (applied businessId key db.toTables).length ≤ 1 := by
  have hunique := db.valid .uqLoyaltyTransactionsBusinessIdIdempotencyKey
  refine Table.Unique.length_le_one (b := (businessId, .adjust key)) hunique
    List.filter_sublist fun row hrow => ?_
  obtain ⟨hbusiness, hkey⟩ := of_decide_eq_true (List.mem_filter.mp hrow).2
  simp [hbusiness, hkey]

theorem applied_eq (h : row ∈ applied businessId key db.toTables) :
    applied businessId key db.toTables = [row] := by
  have hlength := @applied_length db businessId key
  cases hrows : applied businessId key db.toTables with
  | nil =>
      rw [hrows] at h
      cases h
  | cons first rest =>
      rw [hrows] at h hlength
      obtain rfl := List.length_eq_zero_iff.mp (Nat.le_zero.mp (Nat.le_of_succ_le_succ hlength))
      rw [List.mem_singleton.mp h]

-- A row that posts points on a stored customer can break no rule but that of its key.
theorem postPoints_fault {set : Customer → Customer} {e : Failure}
    (hset : ∀ c, (set c).id = c.id ∧ (set c).businessId = c.businessId ∧ (set c).waId = c.waId)
    (hafter : 0 ≤ row.balanceAfter) (hknown : (db.customers.lookup row.customerId).isSome)
    (hwrite : db.write (postPoints set row) = .error e) :
    e = .integrity .uqLoyaltyTransactionsBusinessIdIdempotencyKey := by
  obtain ⟨c, rfl, hc⟩ := Database.write_error hwrite
  have hbroken := Tables.violation_eq_some hc
  have hkey (c : Customer) :
      Keyed.key { set c with loyaltyPointsBalance := row.balanceAfter } = Keyed.key c :=
    (hset c).1
  have hvalid := db.valid
  have hheld := db.valid c
  cases c with
  | customersPkey => exact absurd ((Table.primaryKey_modify hkey).mpr hheld) hbroken
  | uqCustomersBusinessWaId =>
      refine absurd ?_ hbroken
      simp only [Constraint.Holds, Table.Unique, postPoints]
      rw [Table.filterMap_modify fun c => by simp [(hset c).2]]
      exact hheld
  | ckCustomersLoyaltyPointsBalanceNonneg =>
      refine absurd (fun c hc => ?_) hbroken
      obtain ⟨c0, hc0, rfl | rfl⟩ := Table.mem_modify hc
      · exact hvalid .ckCustomersLoyaltyPointsBalanceNonneg c hc0
      · exact hafter
  | fkOrdersCustomerId =>
      refine absurd (fun o ho id hid => ?_) hbroken
      exact (Table.isSome_lookup_modify hkey).symm ▸ hvalid .fkOrdersCustomerId o ho id hid
  | fkLoyaltyTransactionsCustomerId =>
      refine absurd (fun x hx => ?_) hbroken
      refine (Table.isSome_lookup_modify hkey).symm ▸ ?_
      rcases List.mem_append.mp hx with hx | hx
      · exact hvalid .fkLoyaltyTransactionsCustomerId x hx
      · obtain rfl := List.mem_singleton.mp hx
        exact hknown
  | uqLoyaltyTransactionsBusinessIdIdempotencyKey => rfl
  | _ => exact absurd hheld hbroken

end Ledger

section Twins

variable {db : Database} {L : Set RowKey} {user : AuthUser} {businessId customerId : Uuid}
  {body : RoutesLoyalty.LoyaltyAdjustmentRequest} {key : String} {α : Type}

-- A twin that finds the adjustment answers with it, or else one of the conditions is not met.
def Answers (businessId customerId : Uuid) (body : RoutesLoyalty.LoyaltyAdjustmentRequest)
    (key : String) (answer : α → LoyaltyTransaction → Prop) (r : Except Failure α) (L : Set RowKey)
    (db : Database) : Prop :=
  match r with
  | .ok a => ∃ row ∈ applied businessId key db.toTables, answer a row
  | .error _ => applied businessId key db.toTables = [] ∨ ¬ Passes businessId customerId body L db

abbrev Finds (businessId customerId : Uuid) (body : RoutesLoyalty.LoyaltyAdjustmentRequest)
    (key : String) : Except Failure LoyaltyTransaction → Set RowKey → Database → Prop :=
  Answers businessId customerId body key fun row found => row = found

theorem safe_read {β : Type} {q : Database → β} {Q : Except Failure β → Set RowKey → Database → Prop} :
    Safe ledgerGrows L db (.read q : Handler β) Q ↔
      ∀ db' : Database, db.loyaltyTransactions <+: db'.loyaltyTransactions → Q (.ok (q db')) L db' :=
  ⟨fun h db' hgrows => h db' trivial hgrows, fun h db' _ hgrows => h db' hgrows⟩

theorem length_of_scalar {rows : List α} {e : Failure} (h : scalarOneOrNone rows = .error e) :
    1 < rows.length := by
  match rows, h with
  | [], h => cases h
  | [_], h => cases h
  | _ :: _ :: _, _ => simp

-- The ledger has at most one row of the key, so looking it up cannot find two.
theorem find_safe {Q : Except Failure (Option LoyaltyTransaction) → Set RowKey → Database → Prop}
    (hfound : ∀ db' : Database, db.loyaltyTransactions <+: db'.loyaltyTransactions →
      ∀ row ∈ applied businessId key db'.toTables, Q (.ok (some row)) L db')
    (hnone : ∀ db' : Database, db.loyaltyTransactions <+: db'.loyaltyTransactions →
      applied businessId key db'.toTables = [] → Q (.ok none) L db') :
    Safe ledgerGrows L db (RoutesLoyalty.findByIdempotencyKey businessId (.adjust key)) Q := by
  intro db' _ hgrows
  have hQ : ∀ o, scalarOneOrNone (applied businessId key db'.toTables) = .ok o → Q (.ok o) L db' := by
    intro o ho
    cases hrows : applied businessId key db'.toTables with
    | nil =>
        rw [hrows] at ho
        obtain rfl := Except.ok.inj ho
        exact hnone db' hgrows hrows
    | cons row rest =>
        have hrow : row ∈ applied businessId key db'.toTables := hrows ▸ List.mem_cons_self
        rw [applied_eq hrow] at ho
        obtain rfl := Except.ok.inj ho
        exact hfound db' hgrows row hrow
  dsimp only
  split
  next o ho => exact hQ o ho
  next e he => exact absurd (@applied_length db' businessId key) (length_of_scalar he).not_ge

theorem enabled_safe {f : Unit → Handler LoyaltyTransaction}
    (h : ∀ db' : Database, Safe ledgerGrows L db' (f ()) (Finds businessId customerId body key)) :
    Safe ledgerGrows L db ((RoutesLoyalty.requireLoyaltyEnabled businessId).bind f)
      (Finds businessId customerId body key) := by
  refine safe_bind.mpr (safe_bind.mpr (safe_bind.mpr (safe_read.mpr fun db' _ => ?_)))
  refine safe_orFail.mpr ⟨fun b hb => ?_, fun hnone => .inr fun hpasses => ?_⟩
  · refine safe_require.mpr ⟨fun _ => h db', fun hoff => .inr fun hpasses => ?_⟩
    obtain ⟨b', hb', hon⟩ := hpasses.enabled
    obtain rfl := Option.some.inj (hb.symm.trans hb')
    exact hoff hon
  · obtain ⟨b, hb, -⟩ := hpasses.enabled
    exact absurd (hnone.symm.trans hb) (by simp)

theorem known_safe {f : Customer → Handler LoyaltyTransaction}
    (h : ∀ (db' : Database) (c : Customer), c.id = customerId →
      Safe ledgerGrows L db' (f c) (Finds businessId customerId body key)) :
    Safe ledgerGrows L db ((RoutesLoyalty.loadCustomer businessId customerId).bind f)
      (Finds businessId customerId body key) := by
  refine safe_bind.mpr (safe_bind.mpr (safe_read.mpr fun db' _ => ?_))
  refine safe_orFail.mpr ⟨fun c hc => ?_, fun hnone => .inr fun hpasses => ?_⟩
  · exact h db' c (Table.lookup_key (Option.filter_eq_some_iff.mp hc).1)
  · obtain ⟨c, hc, hbusiness⟩ := hpasses.known
    rw [hc] at hnone
    simp [Option.filter, hbusiness] at hnone

def posted (program : Option LoyaltyProgram) (row : LoyaltyTransaction) : Session :=
  stagePoints {} (fun c =>
    { c with loyaltyTier := program.elim c.loyaltyTier (computeTier row.balanceAfter) }) row

theorem posted_fault {program : Option LoyaltyProgram} {row : LoyaltyTransaction} {e : Failure}
    (hafter : 0 ≤ row.balanceAfter) (hknown : (db.customers.lookup row.customerId).isSome)
    (hwrite : db.write (posted program row).pending = .error e) :
    e = .integrity .uqLoyaltyTransactionsBusinessIdIdempotencyKey := by
  refine postPoints_fault ?_ hafter hknown hwrite
  exact fun _ => ⟨rfl, rfl, rfl⟩

theorem locked_safe {program : Option LoyaltyProgram}
    {Q : Except Failure (LoyaltyTransaction × Session) → Set RowKey → Database → Prop}
    (hrefused : ∀ e L db', ¬ Passes businessId customerId body L db' → Q (.error e) L db')
    (hlocked : ∀ db' L' row, row.customerId = customerId → row.businessId = businessId →
      row.idempotencyKey = some (.adjust key) → 0 ≤ row.balanceAfter →
        Q (.ok (row, posted program row)) L' db') :
    Safe ledgerGrows L db (adjustPoints businessId customerId program body.pointsDelta body.reason
      (some (.adjust key))) Q := by
  refine safe_bind.mpr (safe_require.mpr ⟨fun _ => ?_, fun hzero => ?_⟩)
  · refine safe_bind.mpr (safe_bind.mpr (safe_lock.mpr fun db' _ _ => ?_))
    refine safe_orFail.mpr ⟨fun c hc => ?_, fun hnone => ?_⟩
    · obtain ⟨hlookup, -⟩ := Option.filter_eq_some_iff.mp hc
      refine safe_bind.mpr (safe_require.mpr ⟨fun henough => ?_, fun hshort => ?_⟩)
      · exact hlocked db' _ (adjustRow businessId c body.pointsDelta body.reason (some (.adjust key)))
          (Table.lookup_key hlookup) rfl rfl henough
      · refine hrefused _ _ _ fun hpasses => hshort ?_
        have hbalance : balanceOf customerId db'.toTables = c.loyaltyPointsBalance :=
          balanceOf_of_lookup hlookup
        exact hbalance ▸ hpasses.affordable (Set.mem_insert _ _)
    · refine hrefused _ _ _ fun hpasses => ?_
      obtain ⟨c, hc, hbusiness⟩ := hpasses.known
      change (db'.customers.lookup customerId).filter _ = none at hnone
      rw [hc] at hnone
      simp [Option.filter, hbusiness] at hnone
  · exact hrefused _ _ _ fun hpasses => hzero hpasses.moves

theorem adjust_safe (hbusiness : user.businessId = businessId)
    (hrole : user.role = .owner ∨ user.role = .manager)
    (hkey : body.idempotencyKey.filter (· ≠ "") = some key) :
    Safe ledgerGrows L db (RoutesLoyalty.adjustCustomerPoints user customerId body)
      (Finds businessId customerId body key) := by
  subst hbusiness
  refine safe_bind.mpr (safe_require.mpr ⟨fun _ => ?_, fun h => absurd hrole h⟩)
  refine enabled_safe fun db1 => known_safe fun db2 c hid => ?_
  dsimp only
  rw [hkey]
  refine safe_bind.mpr (find_safe (fun db3 _ row hrow => ⟨row, hrow, rfl⟩) fun db3 _ _ => ?_)
  refine safe_bind.mpr (safe_read.mpr fun db4 _ => ?_)
  rw [hid]
  refine safe_bind.mpr (locked_safe (fun _ _ _ h => .inr h) fun db5 L' row hcustomer hrow hrowKey
    hafter => ?_)
  refine safe_bind.mpr (safe_tryCommit.mpr fun db6 _ _ _ => ⟨fun db7 hwrite => ?_, fun e hwrite => ?_⟩)
  · obtain ⟨htables, -⟩ := Database.write_ok hwrite
    have hledger : db7.loyaltyTransactions = db6.loyaltyTransactions ++ [row] :=
      congrArg Tables.loyaltyTransactions htables
    have hgrows : db6.loyaltyTransactions <+: db7.loyaltyTransactions :=
      hledger ▸ List.prefix_append _ _
    refine ⟨hgrows, row, List.mem_filter.mpr ⟨?_, ?_⟩, rfl⟩
    · rw [hledger]
      exact List.mem_append_right _ List.mem_cons_self
    · exact decide_eq_true ⟨hrow, hrowKey⟩
  · dsimp only
    split
    · refine safe_bind.mpr (find_safe (fun db7 _ found hfound => ⟨found, hfound, rfl⟩)
        fun db7 _ hnone => .inl hnone)
    · next hother =>
        refine .inr fun hpasses => hother ?_
        obtain ⟨c, hc, -⟩ := hpasses.known
        refine posted_fault hafter ?_ hwrite
        rw [hcustomer, hc]
        rfl

theorem twin_safe {request : Request} (htwin : Twin businessId customerId body request)
    (hkey : body.idempotencyKey.filter (· ≠ "") = some key) :
    Safe ledgerGrows L db (handle request)
      (Answers businessId customerId body key fun reply row => reply = .points row) := by
  obtain ⟨user, hbusiness, hrole, rfl⟩ := htwin.sent
  refine safe_bind.mpr ((adjust_safe hbusiness hrole hkey).mono fun r L' db' h => ?_)
  cases r with
  | ok row =>
      obtain ⟨found, hfound, rfl⟩ := h
      exact ⟨row, hfound, rfl⟩
  | error e => exact h

theorem twin_starts {request : Request} (htwin : Twin businessId customerId body request) :
    ¬ Ended (handle request) := by
  obtain ⟨user, -, hrole, rfl⟩ := htwin.sent
  have hgranted : requireOwnerOrManager user = .done () := if_pos hrole
  change ¬ Ended (reply .points (RoutesLoyalty.adjustCustomerPoints user customerId body))
  unfold reply RoutesLoyalty.adjustCustomerPoints
  rw [hgranted]
  exact fun h => h

theorem stages_appends {request : Request} {f : Pending} (h : Stages request f) : Appends f := by
  cases h with
  | payAward | recordAward | restorePoints | restoreVoidedPoints | redeem | saleAward
  | redeemReward | adjustPoints => exact fun _ => List.prefix_append _ _
  | _ => exact fun _ => List.prefix_rfl

end Twins

section Runs

variable {ι : Type} [DecidableEq ι] {requests : ι → Request} {db₀ : Database}
  {c c' : Config ι Database RowKey CommitSite Failure Reply} {businessId customerId : Uuid}
  {body : RoutesLoyalty.LoyaltyAdjustmentRequest} {key : String} {i : ι}

-- A step of one of the twins that meets the conditions.
def Checked (businessId customerId : Uuid) (body : RoutesLoyalty.LoyaltyAdjustmentRequest)
    (key : String) (c : Config ι Database RowKey CommitSite Failure Reply) (i : ι) : Prop :=
  ∀ c', c.step? i = some c' → Unused businessId customerId body key c'.db ∧
    (applied businessId key c.db.toTables ≠ [] →
      Passes businessId customerId body (held c'.owner i) c'.db)

def Admitted (businessId customerId : Uuid) (body : RoutesLoyalty.LoyaltyAdjustmentRequest)
    (key : String) (requests : ι → Request)
    (c : Config ι Database RowKey CommitSite Failure Reply) (i : ι) : Prop :=
  Twin businessId customerId body (requests i) → Checked businessId customerId body key c i

def Answered (businessId customerId : Uuid) (body : RoutesLoyalty.LoyaltyAdjustmentRequest)
    (key : String) (c : Config ι Database RowKey CommitSite Failure Reply) (i : ι) : Prop :=
  ∀ reply, c.prog i = .done reply → ∃ row, applied businessId key c.db.toTables = [row] ∧
    reply = .points row ∧ row.customerId = customerId ∧ row.pointsDelta = body.pointsDelta

abbrev AppendsAt (_ : ι) (_ : CommitSite) (_ : List RowKey)
    (write : Database → Except Failure Database) : Prop :=
  True ∧ ∃ f, Appends f ∧ write = Database.write f

structure Watched (businessId customerId : Uuid) (body : RoutesLoyalty.LoyaltyAdjustmentRequest)
    (key : String) (requests : ι → Request)
    (c : Config ι Database RowKey CommitSite Failure Reply) : Prop where
  follows : Follows AppendsAt c
  tracked : ∀ i, Twin businessId customerId body (requests i) → Tracked ledgerGrows
    (Answers businessId customerId body key fun reply row => reply = .points row) c i
  answered : ∀ i, Twin businessId customerId body (requests i) →
    Answered businessId customerId body key c i

omit [DecidableEq ι] in
theorem watched_start (hkey : body.idempotencyKey.filter (· ≠ "") = some key) :
    Watched businessId customerId body key requests (start db₀ fun i => handle (requests i)) where
  follows i := handle_writes appends_neutral fun _ => stages_appends
  tracked i htwin := tracked_start (twin_safe htwin hkey)
  answered i htwin reply hdone := by
    refine absurd ?_ (twin_starts htwin)
    change handle (requests i) = .done reply at hdone
    rw [hdone]
    trivial

omit [DecidableEq ι] in
theorem answered_grows {db : Database} (h : Answered businessId customerId body key c i)
    (hgrows : c.db.loyaltyTransactions <+: db.loyaltyTransactions) (hprog : c'.prog i = c.prog i)
    (hdb : c'.db = db) : Answered businessId customerId body key c' i := by
  intro reply hdone
  obtain ⟨row, hrows, hreply, hrow⟩ := h reply (hprog ▸ hdone)
  have hmem : row ∈ applied businessId key c'.db.toTables := by
    refine (applied_grows (hdb ▸ hgrows)).subset ?_
    rw [hrows]
    exact List.mem_cons_self
  exact ⟨row, applied_eq hmem, hreply, hrow⟩

theorem thread_grows {j : ι} (h : Follows AppendsAt c) (hstep : c.step? j = some c') :
    Follows AppendsAt c' ∧ c.db.loyaltyTransactions <+: c'.db.loyaltyTransactions := by
  obtain ⟨hfollows, ⟨hdb, -⟩ | ⟨_, _, _, ⟨-, f, hf, rfl⟩, -, hwrite, -⟩⟩ := thread_commits h hstep
  · exact ⟨hfollows, hdb ▸ List.prefix_rfl⟩
  · refine ⟨hfollows, ?_⟩
    rw [(Database.write_ok hwrite).1]
    exact hf _

theorem watched_thread {j : ι} (h : Watched businessId customerId body key requests c)
    (hadmits : Admitted businessId customerId body key requests c j)
    (hstep : c.step? j = some c') : Watched businessId customerId body key requests c' := by
  obtain ⟨hfollows, hgrows⟩ := thread_grows h.follows hstep
  have hmeets (j : ι) : c.Meets ledgerGrows.admits j := meets_of_forall (fun _ _ => trivial) c j
  refine ⟨hfollows, fun i htwin => tracked_thread trivial (h.tracked i htwin) hmeets
    (fun _ => hgrows) hstep, fun i htwin => ?_⟩
  by_cases hij : i = j
  · subst hij
    rcases safe_thread trivial (h.tracked i htwin) (hmeets i) hstep with ⟨-, hprog, hdb⟩ | ⟨-, hsafe⟩
    · exact answered_grows (h.answered i htwin) List.prefix_rfl hprog hdb
    · intro reply hdone
      rw [hdone] at hsafe
      obtain ⟨row, hrow, hreply⟩ := hsafe
      exact ⟨row, applied_eq hrow, hreply, (hadmits htwin c' hstep).1 row hrow⟩
  · exact answered_grows (h.answered i htwin) hgrows (other_thread hij hstep).1 rfl

theorem watched_reachable (hkey : body.idempotencyKey.filter (· ≠ "") = some key)
    (hreach : Reachable Environment (Admitted businessId customerId body key requests)
      (start db₀ fun i => handle (requests i)) c) :
    Watched businessId customerId body key requests c := by
  induction hreach with
  | refl => exact watched_start hkey
  | @tail c1 c2 _ hstep ih =>
      cases hstep with
      | thread j hadmits hj => exact watched_thread ih hadmits hj
      | @environment db henv =>
          have hgrows : c1.db.loyaltyTransactions <+: db.loyaltyTransactions := by
            rw [henv.loyaltyTransactions]
          exact ⟨ih.follows, fun i htwin => tracked_of_rely (ih.tracked i htwin) fun _ => hgrows,
            fun i htwin => answered_grows (ih.answered i htwin) hgrows rfl rfl⟩

theorem twins_answered (hkey : body.idempotencyKey.filter (· ≠ "") = some key)
    (hreach : Reachable Environment (Admitted businessId customerId body key requests)
      (start db₀ fun i => handle (requests i)) c) :
    (applied businessId key c.db.toTables).length ≤ 1 ∧
      ∀ i, Twin businessId customerId body (requests i) →
        Answered businessId customerId body key c i ∧
        ∀ c', Admitted businessId customerId body key requests c i → c.step? i = some c' →
          applied businessId key c.db.toTables ≠ [] →
            ∀ e, c'.prog i = .fail e → c.prog i = .fail e := by
  have hwatched := watched_reachable hkey hreach
  refine ⟨applied_length, fun i htwin => ⟨hwatched.answered i htwin, ?_⟩⟩
  intro c' hadmits hstep happlied e hfailed
  have hmeets : c.Meets ledgerGrows.admits i := meets_of_forall (fun _ _ => trivial) c i
  rcases safe_thread trivial (hwatched.tracked i htwin) hmeets hstep with ⟨-, hprog, -⟩ | ⟨-, hsafe⟩
  · exact hprog ▸ hfailed
  · rw [hfailed] at hsafe
    have hgrown : applied businessId key c.db.toTables <+: applied businessId key c'.db.toTables :=
      applied_grows (thread_grows hwatched.follows hstep).2
    rcases hsafe with hnone | hrefused
    · rw [hnone] at hgrown
      exact absurd (List.prefix_nil.mp hgrown) happlied
    · exact absurd ((hadmits htwin c' hstep).2 happlied) hrefused

end Runs

section Fixtures

def takenBack (points : Int) : RoutesLoyalty.LoyaltyAdjustmentRequest where
  pointsDelta := -points
  reason := "Duplicate award"
  idempotencyKey := some "form-1"
  reasonLength := correction.reasonLength

-- The form is submitted twice.
def submittedTwice (points : Int) (_ : Bool) : Request :=
  .adjustCustomerPoints owner 2 (takenBack points)

section Decidability

variable {c : Config Bool Database RowKey CommitSite Failure Reply} {i : Bool} {db : Database}
  {businessId customerId : Uuid} {body : RoutesLoyalty.LoyaltyAdjustmentRequest} {key : String}

instance : Decidable (Unused businessId customerId body key db) :=
  inferInstanceAs (Decidable (∀ row ∈ applied businessId key db.toTables, _))

instance : Decidable (Passes businessId customerId body (held c.owner i) db) :=
  decidable_of_iff (body.pointsDelta ≠ 0 ∧
    (db.businesses.lookup businessId).any (·.loyaltyEnabled) = true ∧
    (db.customers.lookup customerId).any (fun c => c.businessId = businessId) = true ∧
    (c.owner (.customer customerId) = some i →
      0 ≤ balanceOf customerId db.toTables + body.pointsDelta)) <| by
    rw [Option.any_eq_true, Option.any_eq_true]
    constructor
    · rintro ⟨hmoves, henabled, hknown, haffordable⟩
      exact ⟨hmoves, henabled, by simpa using hknown, haffordable⟩
    · rintro ⟨hmoves, henabled, hknown, haffordable⟩
      exact ⟨hmoves, henabled, by simpa using hknown, haffordable⟩

instance : Decidable (Checked businessId customerId body key c i) :=
  match h : c.step? i with
  | none => isTrue fun c' hc' => by simp [h] at hc'
  | some c' => decidable_of_iff (Unused businessId customerId body key c'.db ∧
      (applied businessId key c.db.toTables ≠ [] →
        Passes businessId customerId body (held c'.owner i) c'.db)) <| by
      unfold Checked
      simp [h]

end Decidability

-- The first looks for the key before the second commits, and locks the customer afterwards.
def race : List Bool :=
  List.replicate 3 true ++ List.replicate 6 false ++ List.replicate 4 true

def answer (c : Config Bool Database RowKey CommitSite Failure Reply) (i : Bool) : Option Int :=
  match c.prog i with
  | .done (.points row) => some row.balanceAfter
  | _ => none

theorem admitted_reachable {requests : Bool → Request}
    {c c' : Config Bool Database RowKey CommitSite Failure Reply} {businessId customerId : Uuid}
    {body : RoutesLoyalty.LoyaltyAdjustmentRequest} {key : String} {is : List Bool}
    (h : c' ∈ c.schedule (Checked businessId customerId body key) is) :
    Reachable Environment (Admitted businessId customerId body key requests) c c' := by
  have hreach : Reachable Environment (Checked businessId customerId body key) c c' :=
    schedule_reachable h
  refine Relation.ReflTransGen.mono (fun c1 c2 hstep => ?_) _ _ hreach
  cases hstep with
  | thread i hchecked hi => exact .thread i (fun _ => hchecked) hi
  | environment henv => exact .environment henv

theorem race_answered :
    ∃ c, Reachable Environment (Admitted 1 2 (takenBack 30) "form-1" (submittedTwice 30))
        (start club fun i => handle (submittedTwice 30 i)) c ∧
      answer c true = some 70 ∧ answer c false = some 70 ∧
        (applied 1 "form-1" c.db.toTables).length ≤ 1 ∧
          Answered 1 2 (takenBack 30) "form-1" c true := by
  have hrun : ∃ c ∈ (start club fun i => handle (submittedTwice 30 i)).schedule
      (Checked 1 2 (takenBack 30) "form-1") race, answer c true = some 70 ∧
        answer c false = some 70 := by
    decide +kernel
  obtain ⟨c, hc, hfirst, hsecond⟩ := hrun
  have hreach : Reachable Environment (Admitted 1 2 (takenBack 30) "form-1" (submittedTwice 30))
      (start club fun i => handle (submittedTwice 30 i)) c := admitted_reachable hc
  obtain ⟨hone, htwins⟩ := twins_answered rfl hreach
  exact ⟨c, hreach, hfirst, hsecond, hone, (htwins true ⟨owner, rfl, .inl rfl, rfl⟩).1⟩

-- The second of the two commits while the first waits for the row, and leaves 40 points.
theorem race_refused :
    ¬ ∀ (requests : Bool → Request) (db₀ : Database)
        (c c' : Config Bool Database RowKey CommitSite Failure Reply) (businessId customerId : Uuid)
        (body : RoutesLoyalty.LoyaltyAdjustmentRequest) (key : String) (i : Bool),
      body.idempotencyKey.filter (· ≠ "") = some key →
        (∀ i, Twin businessId customerId body (requests i)) →
          Reachable Environment (fun _ _ => True) (start db₀ fun i => handle (requests i)) c →
            c.step? i = some c' → applied businessId key c.db.toTables ≠ [] →
              ∀ e, c'.prog i = .fail e → c.prog i = .fail e := by
  intro h
  have hrun : ∃ c ∈ (start club fun i => handle (submittedTwice 60 i)).schedule (fun _ _ => True)
      (List.replicate 4 true ++ List.replicate 6 false), ∃ c' ∈ c.step? true,
        applied 1 "form-1" c.db.toTables ≠ [] ∧ hasFailed c true = false ∧
          hasFailed c' true = true := by
    decide +kernel
  obtain ⟨c, hc, c', hc', happlied, hrunning, hfailed⟩ := hrun
  have hanswered := h (submittedTwice 60) club c c' 1 2 (takenBack 60) "form-1" true rfl
    (fun _ => ⟨owner, rfl, .inl rfl, rfl⟩) (schedule_reachable hc) hc' happlied
  unfold hasFailed at hrunning hfailed
  split at hfailed
  · next e he =>
      rw [hanswered e he] at hrunning
      cases hrunning
  · cases hfailed

end Fixtures

end NextgenBackend.AdjustmentTwins
