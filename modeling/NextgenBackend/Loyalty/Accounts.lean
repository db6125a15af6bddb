import NextgenBackend.Api.System

namespace NextgenBackend.PointsLedger

open Txn RelyGuarantee Interleaving Loyalty

def ledger (customerId : Uuid) (t : Tables) : List LoyaltyTransaction :=
  t.loyaltyTransactions.filter fun row => row.customerId = customerId

def deltas (rows : List LoyaltyTransaction) : Int :=
  (rows.map (·.pointsDelta)).sum

def isRunning (rows : List LoyaltyTransaction) : Prop :=
  ∀ before row after, rows = before ++ row :: after →
    row.balanceAfter = deltas before + row.pointsDelta

structure Reconciled (t : Tables) : Prop where
  balance : ∀ customer ∈ t.customers,
    customer.loyaltyPointsBalance = deltas (ledger customer.id t)
  nonnegative : ∀ customer ∈ t.customers, 0 ≤ customer.loyaltyPointsBalance
  running : ∀ customer ∈ t.customers, isRunning (ledger customer.id t)

def balanceOf (customerId : Uuid) (t : Tables) : Int :=
  (t.customers.lookup customerId).elim 0 (·.loyaltyPointsBalance)

-- The same of every id, also of those that no customer has yet.
structure Balanced (t : Tables) : Prop where
  balance : ∀ customerId, balanceOf customerId t = deltas (ledger customerId t)
  running : ∀ customerId, isRunning (ledger customerId t)

section Rows

variable {t : Tables} {f g : Pending} {customerId : Uuid} {row : LoyaltyTransaction}
  {rows rows' : List LoyaltyTransaction}

theorem deltas_append : deltas (rows ++ rows') = deltas rows + deltas rows' := by
  simp [deltas]

theorem deltas_singleton : deltas [row] = row.pointsDelta := by
  simp [deltas]

theorem isRunning_nil : isRunning [] := by
  intro before row after h
  simp at h

theorem isRunning_append (h : isRunning rows)
    (hrow : row.balanceAfter = deltas rows + row.pointsDelta) : isRunning (rows ++ [row]) := by
  intro before row' after heq
  rcases List.eq_nil_or_concat after with rfl | ⟨after, last, rfl⟩
  · obtain ⟨rfl, hlast⟩ := List.append_inj' heq rfl
    obtain rfl := (List.cons.inj hlast).1
    exact hrow
  · have hsplit : rows ++ [row] = (before ++ row' :: after) ++ [last] := by
      simpa using heq
    exact h before row' after (List.append_inj' hsplit rfl).1

theorem ledger_postPoints {set : Customer → Customer} : ledger customerId (postPoints set row t) =
    ledger customerId t ++ if row.customerId = customerId then [row] else [] := by
  unfold ledger postPoints
  by_cases h : row.customerId = customerId <;> simp [h]

theorem balanceOf_of_lookup {customer : Customer}
    (h : t.customers.lookup customerId = some customer) :
    balanceOf customerId t = customer.loyaltyPointsBalance := by
  unfold balanceOf
  rw [h]
  rfl

theorem Reconciled.balanced {db : Database} (h : Reconciled db.toTables) : Balanced db.toTables := by
  have hknown := db.valid .fkLoyaltyTransactionsCustomerId
  have hunknown (customerId : Uuid) (hnone : db.customers.lookup customerId = none) :
      ledger customerId db.toTables = [] := by
    apply List.filter_eq_nil_iff.mpr
    intro row hrow
    have hsome := hknown row hrow
    simp only [decide_eq_true_eq]
    rintro rfl
    rw [hnone] at hsome
    cases hsome
  constructor
  · intro customerId
    cases hlookup : db.customers.lookup customerId with
    | none =>
        rw [hunknown customerId hlookup, balanceOf, hlookup]
        rfl
    | some customer =>
        have hid : customer.id = customerId := Table.lookup_key hlookup
        rw [balanceOf_of_lookup hlookup, h.balance customer (Table.lookup_mem hlookup), hid]
  · intro customerId
    cases hlookup : db.customers.lookup customerId with
    | none =>
        rw [hunknown customerId hlookup]
        exact isRunning_nil
    | some customer =>
        have hid : customer.id = customerId := Table.lookup_key hlookup
        exact hid ▸ h.running customer (Table.lookup_mem hlookup)

-- Points are left alone, and customers who join have none.
def Spares (f : Pending) : Prop :=
  ∃ customers : List Customer, (∀ c ∈ customers, c.loyaltyPointsBalance = 0) ∧
    ∀ t, (f t).customers = t.customers ++ customers ∧
      (f t).loyaltyTransactions = t.loyaltyTransactions

theorem spares_of_same (hcustomers : ∀ t, (f t).customers = t.customers)
    (hrows : ∀ t, (f t).loyaltyTransactions = t.loyaltyTransactions) : Spares f :=
  ⟨[], by simp, fun t => ⟨by rw [hcustomers, List.append_nil], hrows t⟩⟩

theorem spares_neutral : Neutral Spares where
  id := spares_of_same (fun _ => rfl) fun _ => rfl
  comp f g hf hg := by
    obtain ⟨customers, hzero, hf⟩ := hf
    obtain ⟨customers', hzero', hg⟩ := hg
    refine ⟨customers ++ customers', fun c hc => ?_, fun t => ⟨?_, ?_⟩⟩
    · rcases List.mem_append.mp hc with hc | hc
      · exact hzero c hc
      · exact hzero' c hc
    · exact ((hg (f t)).1.trans (by rw [(hf t).1])).trans (List.append_assoc _ _ _)
    · exact (hg (f t)).2.trans (hf t).2

theorem spares_insertCustomer {customer : Customer} (h : customer.loyaltyPointsBalance = 0) :
    Spares (insertCustomer customer) :=
  ⟨[customer], by simpa using h, fun _ => ⟨rfl, rfl⟩⟩

theorem lookup_append {customers joined : Table Customer} :
    Table.lookup (customers ++ joined) customerId =
      (customers.lookup customerId).or (joined.lookup customerId) :=
  List.find?_append

theorem Spares.balanceOf_eq (h : Spares f) (t : Tables) (customerId : Uuid) :
    balanceOf customerId (f t) = balanceOf customerId t := by
  obtain ⟨joined, hzero, hf⟩ := h
  unfold balanceOf
  rw [(hf t).1, lookup_append]
  cases t.customers.lookup customerId with
  | some customer => rfl
  | none =>
      cases hjoined : Table.lookup joined customerId with
      | none => rfl
      | some customer => exact hzero customer (Table.lookup_mem hjoined)

theorem Spares.isSome_lookup (h : Spares f) {t t' : Tables}
    (hkept : (t.customers.lookup customerId).isSome → (t'.customers.lookup customerId).isSome)
    (hsome : ((f t).customers.lookup customerId).isSome) :
    ((f t').customers.lookup customerId).isSome := by
  obtain ⟨joined, -, hf⟩ := h
  rw [(hf t).1, lookup_append, Option.isSome_or, Bool.or_eq_true] at hsome
  rw [(hf t').1, lookup_append, Option.isSome_or, Bool.or_eq_true]
  exact hsome.imp_left hkept

end Rows

-- What a transaction that holds the locks of these customers may do.
structure Turns (ids : Set Uuid) (t t' : Tables) : Prop where
  balanced : Balanced t → Balanced t'
  others : ∀ id ∉ ids, balanceOf id t' = balanceOf id t
  customers : ∀ id, (t.customers.lookup id).isSome → (t'.customers.lookup id).isSome
  ledger : t.loyaltyTransactions <+: t'.loyaltyTransactions

structure Relies (ids : Set Uuid) (t t' : Tables) : Prop where
  balances : ∀ id ∈ ids, balanceOf id t' = balanceOf id t
  customers : ∀ id, (t.customers.lookup id).isSome → (t'.customers.lookup id).isSome

def customersOf (L : Set RowKey) : Set Uuid :=
  {id | RowKey.customer id ∈ L}

section Discipline

variable {t t' t'' : Tables} {ids ids' : Set Uuid} {f : Pending}

theorem Turns.refl (ids : Set Uuid) (t : Tables) : Turns ids t t where
  balanced h := h
  others _ _ := rfl
  customers _ h := h
  ledger := List.prefix_rfl

theorem Turns.trans (h : Turns ids t t') (h' : Turns ids t' t'') : Turns ids t t'' where
  balanced hbalanced := h'.balanced (h.balanced hbalanced)
  others id hid := (h'.others id hid).trans (h.others id hid)
  customers id hsome := h'.customers id (h.customers id hsome)
  ledger := h.ledger.trans h'.ledger

theorem Turns.mono (h : Turns ids t t') (hids : ids ⊆ ids') : Turns ids' t t' where
  balanced := h.balanced
  others id hid := h.others id fun hmem => hid (hids hmem)
  customers := h.customers
  ledger := h.ledger

theorem Relies.refl (ids : Set Uuid) (t : Tables) : Relies ids t t :=
  ⟨fun _ _ => rfl, fun _ h => h⟩

theorem Relies.trans (h : Relies ids t t') (h' : Relies ids t' t'') : Relies ids t t'' where
  balances id hid := (h'.balances id hid).trans (h.balances id hid)
  customers id hsome := h'.customers id (h.customers id hsome)

theorem Relies.anti (h : Relies ids' t t') (hids : ids ⊆ ids') : Relies ids t t' :=
  ⟨fun id hid => h.balances id (hids hid), h.customers⟩

theorem Turns.relies (h : Turns ids t t') (hdisjoint : ∀ id ∈ ids', id ∉ ids) :
    Relies ids' t t' :=
  ⟨fun id hid => h.others id (hdisjoint id hid), h.customers⟩

theorem customersOf_mono {L L' : Set RowKey} (h : L ⊆ L') : customersOf L ⊆ customersOf L' :=
  fun _ hid => h hid

def discipline : Discipline Database RowKey CommitSite where
  inv db := Balanced db.toTables
  rely L db db' := Relies (customersOf L) db.toTables db'.toTables
  guar L db db' := Turns (customersOf L) db.toTables db'.toTables
  admits _ _ := True
  rely_refl _ _ := .refl _ _
  rely_trans _ _ _ _ h h' := h.trans h'
  rely_anti _ _ _ _ hL h := h.anti (customersOf_mono hL)
  guar_inv _ _ _ hinv h := h.balanced hinv
  guar_rely _ _ _ _ hdisjoint _ h :=
    h.relies fun _ hid hid' => Set.disjoint_left.mp hdisjoint hid' hid

theorem Spares.turns (h : Spares f) (t : Tables) : Turns ids t (f t) where
  balanced hbalanced := by
    have ⟨_, _, hf⟩ := h
    have hledger (customerId : Uuid) : PointsLedger.ledger customerId (f t) =
        PointsLedger.ledger customerId t := by
      unfold PointsLedger.ledger
      rw [(hf t).2]
    constructor
    · intro customerId
      rw [h.balanceOf_eq, hledger]
      exact hbalanced.balance customerId
    · intro customerId
      rw [hledger]
      exact hbalanced.running customerId
  others customerId _ := h.balanceOf_eq t customerId
  customers customerId hsome := by
    obtain ⟨joined, -, hf⟩ := h
    rw [(hf t).1, lookup_append, Option.isSome_or, hsome]
    rfl
  ledger := by
    obtain ⟨joined, -, hf⟩ := h
    exact (hf t).2 ▸ List.prefix_rfl

theorem turns_postPoints {set : Customer → Customer} {row : LoyaltyTransaction}
    (hset : ∀ c, (set c).id = c.id) (hsome : (t.customers.lookup row.customerId).isSome)
    (hafter : row.balanceAfter = balanceOf row.customerId t + row.pointsDelta)
    (hid : row.customerId ∈ ids) : Turns ids t (postPoints set row t) := by
  have hkey (c : Customer) : key { set c with loyaltyPointsBalance := row.balanceAfter } = key c :=
    hset c
  have hself : balanceOf row.customerId (postPoints set row t) = row.balanceAfter := by
    obtain ⟨customer, hlookup⟩ := Option.isSome_iff_exists.mp hsome
    unfold balanceOf postPoints
    rw [Table.lookup_modify_self hkey, hlookup]
    rfl
  have hother (id : Uuid) (hne : id ≠ row.customerId) :
      balanceOf id (postPoints set row t) = balanceOf id t := by
    unfold balanceOf postPoints
    rw [Table.lookup_modify_ne hkey hne]
  constructor
  · intro hbalanced
    constructor
    · intro id
      rw [ledger_postPoints]
      by_cases hrow : row.customerId = id
      · subst hrow
        rw [if_pos rfl, deltas_append, deltas_singleton, hself, hafter, hbalanced.balance]
      · rw [if_neg hrow, List.append_nil, hother id (Ne.symm hrow), hbalanced.balance]
    · intro id
      rw [ledger_postPoints]
      by_cases hrow : row.customerId = id
      · subst hrow
        rw [if_pos rfl]
        apply isRunning_append (hbalanced.running row.customerId)
        rw [hafter, hbalanced.balance]
      · rw [if_neg hrow, List.append_nil]
        exact hbalanced.running id
  · intro id hnot
    exact hother id fun heq => hnot (heq ▸ hid)
  · intro id
    exact (Table.isSome_lookup_modify hkey).symm ▸ fun h => h
  · exact List.prefix_append _ _

end Discipline

-- Whatever the others do meanwhile, committing the session is a turn of the customers it has locked.
def Postable (L : Set RowKey) (db : Database) (session : Session) : Prop :=
  ∀ db' : Database, Relies (customersOf L) db.toTables db'.toTables →
    Turns (customersOf L) db'.toTables (session.pending db'.toTables)

def Sound {α : Type} (x : Handler α) : Prop :=
  ∀ L db, Safe discipline L db x fun _ _ _ => True

section Sessions

variable {α β : Type} {sites : CommitSite → Prop} {L L' : Set RowKey} {db db' : Database}
  {session session' : Session} {site : CommitSite} {Q : Except Failure α → Set RowKey → Database → Prop}

theorem postable_start : Postable L db {} :=
  fun _ _ => .refl _ _

theorem Postable.mono (h : Postable L db session) (hsub : L ⊆ L')
    (hrely : Relies (customersOf L) db.toTables db'.toTables) : Postable L' db' session := by
  intro db'' hrely'
  have hmine : Relies (customersOf L) db'.toTables db''.toTables :=
    hrely'.anti (customersOf_mono hsub)
  exact (h db'' (hrely.trans hmine)).mono (customersOf_mono hsub)

theorem Postable.extend (h : Postable L db session) (hext : session.Extends Spares session') :
    Postable L db session' := by
  obtain ⟨f, hf, hpending⟩ := hext
  intro db' hrely
  rw [hpending]
  exact (h db' hrely).trans (hf.turns _)

-- The row is posted on the balance that was read under the customer's lock.
theorem postable_stagePoints {set : Customer → Customer} {row : LoyaltyTransaction}
    {customer : Customer} (hset : ∀ c, (set c).id = c.id) (hs : Session.Extends Spares {} session)
    (hlocked : RowKey.customer row.customerId ∈ L)
    (hlookup : (session.pending db.toTables).customers.lookup row.customerId = some customer)
    (hafter : row.balanceAfter = customer.loyaltyPointsBalance + row.pointsDelta) :
    Postable L db (stagePoints session set row) := by
  intro db' hrely
  have hspares : Spares session.pending := hs.pending
  have hbalance : balanceOf row.customerId (session.pending db'.toTables) =
      customer.loyaltyPointsBalance := by
    rw [hspares.balanceOf_eq, hrely.balances row.customerId hlocked,
      ← hspares.balanceOf_eq db.toTables, balanceOf_of_lookup hlookup]
  have hsome : ((session.pending db'.toTables).customers.lookup row.customerId).isSome :=
    hspares.isSome_lookup (hrely.customers row.customerId) (by rw [hlookup]; rfl)
  have hpost : Turns (customersOf L) (session.pending db'.toTables)
      (postPoints set row (session.pending db'.toTables)) := by
    apply turns_postPoints hset hsome _ hlocked
    rw [hbalance]
    exact hafter
  exact (hspares.turns db'.toTables).trans hpost

theorem postable_guar (h : Postable L db session) {db'' : Database} {keys : List RowKey}
    (hrely : Relies (customersOf L) db.toTables db'.toTables)
    (hwrite : Database.write session.pending db' = .ok db'') :
    discipline.guar (L ∪ {key | key ∈ keys}) db' db'' := by
  have hturns : Turns (customersOf L) db'.toTables db''.toTables := by
    rw [(Database.write_ok hwrite).1]
    exact h db' hrely
  exact hturns.mono (customersOf_mono Set.subset_union_left)

theorem safe_commit (h : Postable L db session) :
    Safe discipline L db (commit site session) fun _ _ _ => True :=
  safe_save.mpr fun _ _ hrely _ =>
    ⟨fun _ hwrite => ⟨postable_guar h hrely hwrite, trivial⟩, fun _ _ => trivial⟩

theorem safe_tryPost (h : Postable L db session) :
    Safe discipline L db (.tryCommit site session.touched (Database.write session.pending))
      fun _ _ _ => True :=
  safe_tryCommit.mpr fun _ _ hrely _ =>
    ⟨fun _ hwrite => ⟨postable_guar h hrely hwrite, trivial⟩, fun _ _ => trivial⟩

theorem sound_then {x : Handler β} {f : β → Handler α}
    (hx : Safe discipline L db x fun _ _ _ => True) (hf : ∀ b, Sound (f b)) :
    Safe discipline L db (x.bind f) fun _ _ _ => True := by
  refine safe_bind.mpr (hx.mono fun r L' db' _ => ?_)
  cases r with
  | ok b => exact hf b L' db'
  | error e => trivial

theorem sound_seq {R : β → Prop} {x : Handler β} {f : β → Handler α} (hx : x.ReadOnly R)
    (hf : ∀ b, R b → Sound (f b)) : Sound (x.bind f) := by
  intro L db
  exact safe_seq hx (fun b L' db' hb _ _ => hf b hb L' db') fun _ _ _ _ _ => trivial

theorem sound_of_writes {x : Handler α} (h : Writes sites Spares x) : Sound x := by
  intro L db
  have hconforms : x.Conforms (fun site keys write => ∀ L db db', discipline.inv db →
      discipline.admits site db → write db = .ok db' →
        discipline.guar (L ∪ {key | key ∈ keys}) db db') fun _ => True := by
    apply Conforms.mono h _ fun _ h => h
    rintro site keys write ⟨-, f, hf, rfl⟩ L db db' _ _ hwrite
    have hturns : Turns (customersOf (L ∪ {key | key ∈ keys})) db.toTables db'.toTables := by
      rw [(Database.write_ok hwrite).1]
      exact hf.turns _
    exact hturns
  exact (safe_of_conforms hconforms).mono fun _ _ _ _ => trivial

theorem sound_readOnly {x : Handler α} (h : x.ReadOnly fun _ => True) : Sound x := by
  have hwrites : Writes (fun _ => True) Spares x := writes_readOnly h
  exact sound_of_writes hwrites

theorem lockCustomer_safe {businessId customerId : Uuid} :
    Safe discipline L db (lockCustomerForBalanceUpdate session businessId customerId)
      fun r L' db' => ∀ customer, r = .ok customer → RowKey.customer customerId ∈ L' ∧
        customer.id = customerId ∧
          (session.pending db'.toTables).customers.lookup customerId = some customer := by
  apply safe_bind.mpr
  apply safe_lock.mpr
  intro db' _ _
  apply safe_orFail.mpr
  constructor
  · rintro customer hfound _ hok
    obtain rfl := Except.ok.inj hok
    have hlookup := (Option.filter_eq_some_iff.mp hfound).1
    exact ⟨Set.mem_insert _ _, Table.lookup_key hlookup, hlookup⟩
  · intro _ customer hok
    cases hok

-- What a step of a transaction hands on is a session that may still be committed.
def Posts (L : Set RowKey) (db : Database) (sessionOf : β → Session) (x : Handler β) : Prop :=
  Safe discipline L db x fun r L' db' => ∀ b, r = .ok b → Postable L' db' (sessionOf b)

theorem posts_done {sessionOf : β → Session} {b : β} (h : Postable L db (sessionOf b)) :
    Posts L db sessionOf (.done b) := by
  intro b' hb
  obtain rfl := Except.ok.inj hb
  exact h

theorem posts_seq {γ : Type} {R : γ → Prop} {sessionOf : β → Session} {x : Handler γ}
    {f : γ → Handler β} (hx : x.ReadOnly R)
    (hf : ∀ c L' db', R c → Relies (customersOf L) db.toTables db'.toTables → L ⊆ L' →
      Posts L' db' sessionOf (f c)) : Posts L db sessionOf (x.bind f) := by
  apply safe_seq hx
  · intro c L' db' hc hsub hrely
    exact hf c L' db' hc hrely hsub
  · intro e L' db' _ _ b hb
    cases hb

theorem posts_locked {sessionOf : β → Session} {businessId customerId : Uuid}
    {f : Customer → Handler β}
    (hf : ∀ customer L' db', RowKey.customer customerId ∈ L' → customer.id = customerId →
      (session.pending db'.toTables).customers.lookup customerId = some customer →
        Posts L' db' sessionOf (f customer)) :
    Posts L db sessionOf ((lockCustomerForBalanceUpdate session businessId customerId).bind f) := by
  apply safe_bind.mpr
  apply lockCustomer_safe.mono
  intro r L' db' h
  cases r with
  | ok customer =>
      obtain ⟨hlocked, hid, hlookup⟩ := h customer rfl
      exact hf customer L' db' hlocked hid hlookup
  | error e =>
      intro b hb
      cases hb

theorem safe_posted {sessionOf : β → Session} {x : Handler β} {f : β → Handler α}
    (hx : Posts L db sessionOf x)
    (hf : ∀ b L' db', Postable L' db' (sessionOf b) →
      Safe discipline L' db' (f b) fun _ _ _ => True) :
    Safe discipline L db (x.bind f) fun _ _ _ => True := by
  refine safe_bind.mpr (hx.mono fun r L' db' h => ?_)
  cases r with
  | ok b => exact hf b L' db' (h b rfl)
  | error e => trivial

theorem safe_extended {x : Handler Session} {f : Session → Handler α}
    (h : Postable L db session) (hx : x.ReadOnly (session.Extends Spares))
    (hf : ∀ session' L' db', Postable L' db' session' →
      Safe discipline L' db' (f session') fun _ _ _ => True) :
    Safe discipline L db (x.bind f) fun _ _ _ => True := by
  refine safe_seq hx (fun session' L' db' hext hsub hrely => ?_) fun _ _ _ _ _ => trivial
  exact hf session' L' db' ((h.mono hsub hrely).extend hext)

theorem awardPoints_posts {businessId : Uuid} {customer : Customer} {order : Order}
    {program : LoyaltyProgram} :
    Posts L db id (awardPointsForPaidOrder businessId customer order program) := by
  unfold awardPointsForPaidOrder
  split
  · exact posts_done postable_start
  · apply posts_seq readOnly_readNow
    intro now L' db' _ _ _
    dsimp only
    split
    · exact posts_done postable_start
    · apply posts_locked
      intro locked L'' db'' hlocked hid hlookup
      apply posts_done
      rw [← hid] at hlocked hlookup
      exact postable_stagePoints (fun _ => rfl) spares_neutral.refl hlocked hlookup rfl

theorem posts_ensure {sessionOf : β → Session} {p : Prop} [Decidable p] {error : AppError}
    {f : Unit → Handler β} (h : Postable L db session)
    (hf : ∀ L' db', Postable L' db' session → Posts L' db' sessionOf (f ())) :
    Posts L db sessionOf ((ensure p error).bind f) := by
  apply posts_seq readOnly_ensure
  intro _ L' db' _ hrely hsub
  exact hf L' db' (h.mono hsub hrely)

theorem redeemReward_posts {businessId customerId : Uuid} {reward : LoyaltyReward}
    {program : LoyaltyProgram} {orderId : Option Uuid} (hs : Session.Extends Spares {} session) :
    Posts L db (·.2) (redeemReward session businessId customerId reward program orderId) := by
  apply posts_ensure postable_start
  intro _ _ _
  apply posts_ensure postable_start
  intro _ _ _
  apply posts_locked
  intro locked L' db' hlocked hid hlookup
  rw [← hid] at hlocked hlookup
  have hposted : Postable L' db' (stagePoints session (fun c =>
      { c with
        loyaltyTier := computeTier (redeemRow businessId locked reward orderId).balanceAfter program })
      (redeemRow businessId locked reward orderId)) :=
    postable_stagePoints (fun _ => rfl) hs hlocked hlookup (sub_eq_add_neg _ _)
  apply posts_ensure hposted
  intro _ _ hposted
  apply posts_ensure hposted
  intro _ _ hposted
  exact posts_done hposted

theorem redeemRewardForCheckout_posts {businessId customerId orderId : Uuid}
    {reward : LoyaltyReward} {program : LoyaltyProgram} {maxDiscountableCents : Cents}
    (hs : Session.Extends Spares {} session) :
    Posts L db (·.2) (redeemRewardForCheckout session businessId customerId reward program orderId
      maxDiscountableCents) := by
  unfold redeemRewardForCheckout
  split
  · intro b hb
    cases hb
  · apply safe_bind.mpr
    apply (redeemReward_posts hs).mono
    intro r L' db' h
    cases r with
    | ok redeemed => exact posts_done (h redeemed rfl)
    | error e =>
        intro b hb
        cases hb

theorem reverseRedemption_posts {businessId orderId : Uuid} {notes : Option String}
    (hs : Session.Extends Spares {} session) :
    Posts L db id (reverseRedemption session businessId orderId notes) := by
  have hkept {L : Set RowKey} {db : Database} : Postable L db session :=
    postable_start.extend hs
  apply posts_seq readOnly_scalar
  intro original _ _ _ _ _
  split
  · exact posts_done hkept
  · apply posts_seq readOnly_scalar
    intro alreadyReversed _ _ _ _ _
    split
    · exact posts_done hkept
    · apply posts_seq readOnly_read
      intro program _ _ _ _ _
      apply posts_locked
      intro locked L' db' hlocked hid hlookup
      rw [← hid] at hlocked hlookup
      exact posts_done (postable_stagePoints (fun _ => rfl) hs hlocked hlookup rfl)

theorem adjustPoints_posts {businessId customerId : Uuid} {program : Option LoyaltyProgram}
    {pointsDelta : Int} {reason : String} {idempotencyKey : Option LoyaltyIdempotencyKey} :
    Posts L db (·.2)
      (adjustPoints businessId customerId program pointsDelta reason idempotencyKey) := by
  apply posts_ensure postable_start
  intro _ _ _
  apply posts_locked
  intro locked L' db' hlocked hid hlookup
  rw [← hid] at hlocked hlookup
  have hposted : Postable L' db' (stagePoints {} (fun c =>
      { c with
        loyaltyTier := program.elim c.loyaltyTier (computeTier
          (adjustRow businessId locked pointsDelta reason idempotencyKey).balanceAfter) })
      (adjustRow businessId locked pointsDelta reason idempotencyKey)) :=
    postable_stagePoints (fun _ => rfl) spares_neutral.refl hlocked hlookup rfl
  apply posts_ensure hposted
  intro _ _ hposted
  exact posts_done hposted

end Sessions

end NextgenBackend.PointsLedger
