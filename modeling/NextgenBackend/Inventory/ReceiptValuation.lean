import NextgenBackend.Api.RoutesInventory
import NextgenBackend.Shared.Vat

namespace NextgenBackend.ReceiptValuation

open Fallible (bind_eq_ok)

open Txn Inventory RoutesInventory

-- In billionths of a cent, what the quantity leaves of the cost is at most half a cent.
def Settles (lineCostCents quantityMilli : Int) : Prop :=
  let left := |lineCostCents| * 1000000000 % quantityMilli
  if 2 * left < quantityMilli then left ≤ 500000000 else quantityMilli - left < 500000000

instance (lineCostCents quantityMilli : Int) : Decidable (Settles lineCostCents quantityMilli) :=
  inferInstanceAs (Decidable (ite _ _ _))

section Rounding

variable {cost quantity unitCost : Int}

theorem unitCost_eq (hcost : 0 ≤ cost) (hquantity : 0 < quantity) :
    costPerCanonicalMicroCents cost quantity =
      cost * 1000000000 / quantity +
        if 2 * (cost * 1000000000 % quantity) < quantity then 0 else 1 := by
  have hnonneg : 0 ≤ cost * 1000000000 := by positivity
  have hquantity' : ((quantity.toNat : Nat) : Int) = quantity := Int.toNat_of_nonneg hquantity.le
  have hdivision := Int.mul_ediv_add_emod (cost * 1000000000) quantity
  have hleft := Int.emod_nonneg (cost * 1000000000) hquantity.ne'
  have hless := Int.emod_lt_of_pos (cost * 1000000000) hquantity
  rw [costPerCanonicalMicroCents, Pricing.roundHalfUp, if_pos hnonneg, hquantity']
  generalize cost * 1000000000 / quantity = whole at hdivision ⊢
  generalize cost * 1000000000 % quantity = left at hdivision hleft hless ⊢
  have hsplit : 2 * (cost * 1000000000) + quantity = 2 * left + quantity + 2 * quantity * whole := by
    rw [← hdivision]
    ring
  rw [hsplit, Int.add_mul_ediv_left _ _ (by omega), Int.add_comm]
  congr 1
  split
  · exact Int.ediv_eq_zero_of_lt (by omega) (by omega)
  · rw [Int.ediv_eq_iff_of_pos (by omega)]
    omega

theorem value_eq_iff_of_nonneg (hcost : 0 ≤ cost) (hquantity : 0 < quantity) :
    valueCents quantity (costPerCanonicalMicroCents cost quantity) = cost ↔
      Settles cost quantity := by
  have hdivision := Int.mul_ediv_add_emod (cost * 1000000000) quantity
  have hleft := Int.emod_nonneg (cost * 1000000000) hquantity.ne'
  have hless := Int.emod_lt_of_pos (cost * 1000000000) hquantity
  rw [unitCost_eq hcost hquantity, Settles, abs_of_nonneg hcost]
  have hwhole : 0 ≤ cost * 1000000000 / quantity :=
    Int.ediv_nonneg (by positivity) hquantity.le
  generalize cost * 1000000000 / quantity = whole at hdivision hwhole ⊢
  generalize cost * 1000000000 % quantity = left at hdivision hleft hless ⊢
  have hproduct : 0 ≤ quantity * whole := mul_nonneg hquantity.le hwhole
  unfold valueCents Pricing.roundHalfUp
  split
  · rw [if_pos (by simpa using hproduct), Int.ediv_eq_iff_of_pos (by norm_num)]
    push_cast
    rw [Int.add_zero]
    omega
  · have hmore : quantity * (whole + 1) = quantity * whole + quantity := by ring
    rw [hmore, if_pos (by omega), Int.ediv_eq_iff_of_pos (by norm_num)]
    push_cast
    omega

theorem value_eq_iff (hquantity : 0 < quantity) :
    valueCents quantity (costPerCanonicalMicroCents cost quantity) = cost ↔
      Settles cost quantity := by
  rcases le_total 0 cost with hcost | hcost
  · exact value_eq_iff_of_nonneg hcost hquantity
  · have hneg : valueCents quantity (costPerCanonicalMicroCents cost quantity) =
        -valueCents quantity (costPerCanonicalMicroCents (-cost) quantity) := by
      have hunit : costPerCanonicalMicroCents (-cost) quantity =
          -costPerCanonicalMicroCents cost quantity := by
        rw [costPerCanonicalMicroCents, Int.neg_mul]
        exact roundHalfUp_neg _ (by omega)
      rw [hunit, valueCents, valueCents, Int.mul_neg, roundHalfUp_neg _ (by decide), neg_neg]
    have hnonneg := value_eq_iff_of_nonneg (neg_nonneg.mpr hcost) hquantity
    rw [hneg, neg_eq_iff_eq_neg, hnonneg, Settles, Settles, abs_neg]

end Rounding

section Context

variable {cost quantity unitCost : Int}

end Context

section Receipts

variable {user : AuthUser} {receiptId : Uuid} {occurred : Instant} {ingredient : Ingredient}
  {ingredients : List Ingredient} {line : GoodsReceiptLineRequest}
  {lines : List GoodsReceiptLineRequest} {received : List ReceivedLine} {quantityMilli : Int}
  {cost : LineCost} {r : ReceivedLine}

-- The cost that the line states settles over the quantity it received.
def LineSettles (ingredients : List Ingredient) (line : GoodsReceiptLineRequest) : Prop :=
  ∀ ingredient, ingredients.find? (fun i => i.id = line.ingredientId) = some ingredient →
    ∀ unitCost ∈ line.unitCostCents, ∀ total quantityMilli,
      statedCost unitCost line.quantity = .ok total →
        receivedMilli ingredient line = .ok quantityMilli → Settles total quantityMilli

def LineValued (r : ReceivedLine) : Prop :=
  r.line.unitCostCents.isSome → r.movement.valueCents = r.line.lineCostCents

-- A row stems from a line of the request.
def StemsFrom (user : AuthUser) (receiptId : Uuid) (occurred : Instant)
    (ingredients : List Ingredient) (line : GoodsReceiptLineRequest) (r : ReceivedLine) : Prop :=
  ∃ ingredient quantityMilli cost,
    ingredients.find? (fun i => i.id = line.ingredientId) = some ingredient ∧
      receivedMilli ingredient line = .ok quantityMilli ∧
        lineCost ingredient line quantityMilli = .ok cost ∧
          r = receivedLine user receiptId occurred ingredient line quantityMilli cost

theorem receivedLines_stem
    (h : receivedLines user receiptId occurred ingredients lines = .ok received) :
    (∀ r ∈ received, ∃ line ∈ lines, StemsFrom user receiptId occurred ingredients line r) ∧
      ∀ line ∈ lines, ∀ ingredient,
        ingredients.find? (fun i => i.id = line.ingredientId) = some ingredient →
          ∃ r ∈ received, StemsFrom user receiptId occurred ingredients line r := by
  induction lines generalizing received with
  | nil =>
      obtain rfl := Except.ok.inj h
      simp
  | cons line lines ih =>
      unfold receivedLines at h
      split at h
      next hnone =>
        obtain ⟨hstems, hlines⟩ := ih h
        constructor
        · intro r hr
          obtain ⟨line', hline', hstem⟩ := hstems r hr
          exact ⟨line', List.mem_cons_of_mem _ hline', hstem⟩
        · intro line' hline' ingredient hfound
          rcases List.mem_cons.mp hline' with rfl | hline'
          · rw [hnone] at hfound
            cases hfound
          · exact hlines line' hline' ingredient hfound
      next ingredient hfound =>
        obtain ⟨quantityMilli, hquantity, h⟩ := bind_eq_ok h
        obtain ⟨cost, hcost, h⟩ := bind_eq_ok h
        obtain ⟨rest, hrest, h⟩ := bind_eq_ok h
        obtain rfl := Except.ok.inj h
        obtain ⟨hstems, hlines⟩ := ih hrest
        have hstem : StemsFrom user receiptId occurred ingredients line
            (receivedLine user receiptId occurred ingredient line quantityMilli cost) :=
          ⟨ingredient, quantityMilli, cost, hfound, hquantity, hcost, rfl⟩
        constructor
        · intro r hr
          rcases List.mem_cons.mp hr with rfl | hr
          · exact ⟨line, List.mem_cons_self, hstem⟩
          · obtain ⟨line', hline', hstem'⟩ := hstems r hr
            exact ⟨line', List.mem_cons_of_mem _ hline', hstem'⟩
        · intro line' hline' ingredient' hfound'
          rcases List.mem_cons.mp hline' with rfl | hline'
          · exact ⟨_, List.mem_cons_self, hstem⟩
          · obtain ⟨r, hr, hstem'⟩ := hlines line' hline' ingredient' hfound'
            exact ⟨r, List.mem_cons_of_mem _ hr, hstem'⟩

theorem receivedMilli_pos (h : receivedMilli ingredient line = .ok quantityMilli) :
    0 < quantityMilli := by
  obtain ⟨n, -, h⟩ := bind_eq_ok h
  split at h
  · cases h
  · obtain rfl := Except.ok.inj h
    omega

-- A standing cost values the movement and the line alike; a stated one is divided out first.
theorem lineCost_value (hpos : 0 < quantityMilli)
    (h : lineCost ingredient line quantityMilli = .ok cost) :
    (line.unitCostCents = none ∧
        valueCents quantityMilli cost.unitCostMicroCents = cost.lineCostCents) ∨
      ∃ unitCost, line.unitCostCents = some unitCost ∧
        statedCost unitCost line.quantity = .ok cost.lineCostCents ∧
          (valueCents quantityMilli cost.unitCostMicroCents = cost.lineCostCents ↔
            Settles cost.lineCostCents quantityMilli) := by
  unfold lineCost at h
  split at h
  next unitCost hunit =>
    obtain ⟨total, htotal, h⟩ := bind_eq_ok h
    obtain rfl := Except.ok.inj h
    exact .inr ⟨unitCost, hunit, htotal, value_eq_iff hpos⟩
  next hunit =>
    obtain rfl := Except.ok.inj h
    exact .inl ⟨hunit, rfl⟩

theorem lineValued_iff (h : StemsFrom user receiptId occurred ingredients line r) :
    LineValued r ↔ LineSettles ingredients line := by
  obtain ⟨ingredient, quantityMilli, cost, hfound, hquantity, hcost, rfl⟩ := h
  unfold LineValued LineSettles
  rw [hfound]
  rcases lineCost_value (receivedMilli_pos hquantity) hcost with
    ⟨hnone, -⟩ | ⟨unitCost, hunit, htotal, hvalue⟩
  · constructor
    · rintro - _ - unitCost hunit
      rw [hnone] at hunit
      cases hunit
    · intro _ hsome
      change line.unitCostCents.isSome at hsome
      rw [hnone] at hsome
      cases hsome
  · constructor
    · rintro hvalued _ ⟨⟩ _ hunit' total quantityMilli' htotal' hquantity'
      rw [hunit] at hunit'
      obtain rfl := Option.some.inj hunit'
      obtain rfl := Except.ok.inj (htotal.symm.trans htotal')
      obtain rfl := Except.ok.inj (hquantity.symm.trans hquantity')
      exact hvalue.mp (hvalued (by rw [receivedLine, hunit]; rfl))
    · intro hsettles _
      exact hvalue.mpr (hsettles ingredient rfl unitCost hunit _ _ htotal hquantity)

theorem lineValued_value (h : StemsFrom user receiptId occurred ingredients line r)
    (hvalued : LineValued r) : r.movement.valueCents = r.line.lineCostCents := by
  obtain ⟨ingredient, quantityMilli, cost, -, hquantity, hcost, rfl⟩ := h
  rcases lineCost_value (receivedMilli_pos hquantity) hcost with
    ⟨-, hvalue⟩ | ⟨unitCost, hunit, -⟩
  · exact hvalue
  · exact hvalued (by rw [receivedLine, hunit]; rfl)

-- No line's value loses a cent of its cost, and the movements add up to the receipt's total.
structure Valued (receipt : GoodsReceipt) (received : List ReceivedLine) : Prop where
  lines : ∀ r ∈ received, LineValued r
  total : (received.map (·.movement.valueCents)).sum = receipt.totalCostCents

theorem valued_iff {body : GoodsReceiptCreateRequest}
    (h : receivedLines user receiptId occurred ingredients body.lines = .ok received) :
    Valued (newReceipt user receiptId body occurred received) received ↔
      ∀ line ∈ body.lines, LineSettles ingredients line := by
  obtain ⟨hstems, hlines⟩ := receivedLines_stem h
  constructor
  · rintro ⟨hvalued, -⟩ line hline ingredient hfound
    obtain ⟨r, hr, hstem⟩ := hlines line hline ingredient hfound
    exact (lineValued_iff hstem).mp (hvalued r hr) ingredient hfound
  · intro hsettles
    have hvalued : ∀ r ∈ received, LineValued r := by
      intro r hr
      obtain ⟨line, hline, hstem⟩ := hstems r hr
      exact (lineValued_iff hstem).mpr (hsettles line hline)
    refine ⟨hvalued, congrArg List.sum (List.map_congr_left fun r hr => ?_)⟩
    obtain ⟨line, -, hstem⟩ := hstems r hr
    exact lineValued_value hstem (hvalued r hr)

end Receipts

section Runs

variable {user : AuthUser} {receiptId : Uuid} {db : Database}

def receiptIngredients (user : AuthUser) (body : GoodsReceiptCreateRequest) (db : Database) :
    List Ingredient :=
  db.ingredients.filter fun i =>
    i.businessId = user.businessId ∧ i.id ∈ body.lines.map (·.ingredientId) ∧ ¬ i.isDeleted

structure Recorded (user : AuthUser) (receiptId : Uuid) (body : GoodsReceiptCreateRequest)
    (occurred : Instant) (received : List ReceivedLine) (db db' : Database) : Prop where
  resolved : receivedLines user receiptId occurred (receiptIngredients user body db) body.lines =
    .ok received
  receipts : db'.goodsReceipts =
    db.goodsReceipts.insert (newReceipt user receiptId body occurred received)
  lines : db'.goodsReceiptLines = db.goodsReceiptLines ++ received.map (·.line)
  movements : db'.stockMovements = db.stockMovements ++ received.map (·.movement)

-- The request leaves the database alone, or records a receipt.
def RecordsOrNot (user : AuthUser) (receiptId : Uuid) (body : GoodsReceiptCreateRequest)
    (db db' : Database) : Prop :=
  db' = db ∨ ∃ occurred received, Recorded user receiptId body occurred received db db'

theorem createGoodsReceipt_records {body : GoodsReceiptCreateRequest} :
    (createGoodsReceipt user receiptId body).Ensures db fun _ db' =>
      RecordsOrNot user receiptId body db db' := by
  have hsame : RecordsOrNot user receiptId body db db := .inl rfl
  refine ensures_seq readOnly_requireStaffOrAbove.yields (fun _ _ => ?_) fun _ => hsame
  refine ensures_seq readOnly_requireInventoryEnabled.yields (fun _ _ => ?_) fun _ => hsame
  refine ensures_seq readOnly_read.yields (fun replayed _ => ?_) fun _ => hsame
  cases replayed with
  | some response => exact hsame
  | none =>
      refine ensures_seq (R := fun ingredients => ingredients = receiptIngredients user body db)
        (yields_read rfl) (fun ingredients hingredients => ?_) fun _ => hsame
      subst hingredients
      refine ensures_seq readOnly_ensure.yields (fun _ _ => ?_) fun _ => hsame
      refine ensures_seq readOnly_requireSupplier.yields (fun _ _ => ?_) fun _ => hsame
      refine ensures_seq readOnly_readNow.yields (fun now _ => ?_) fun _ => hsame
      refine ensures_seq (liftExcept_ok _).yields (fun received hreceived => ?_) fun _ => hsame
      refine ensures_seq requireFits_ok.yields (fun _ _ => ?_) fun _ => hsame
      refine ensures_bind.mpr (ensures_tryCommit.mpr ⟨fun db' hwrite => ?_, fun e _ => ?_⟩)
      · obtain ⟨htables, -⟩ := Database.write_ok hwrite
        change RecordsOrNot user receiptId body db db'
        refine .inr ⟨_, received, hreceived, ?_, ?_, ?_⟩ <;> rw [htables] <;> rfl
      · have hreplay : (replayGoodsReceipt user.businessId body e).ReadOnly fun _ => True := by
          unfold replayGoodsReceipt
          split
          · exact readOnly_seq readOnly_read fun _ => conforms_orFail fun _ _ => trivial
          · trivial
        exact Ensures.mono hreplay.yields fun _ _ h => Or.inl h.1

end Runs

theorem receipt_valued_iff (user : AuthUser) (receiptId : Uuid) (body : GoodsReceiptCreateRequest)
    (db : Database) :
    (createGoodsReceipt user receiptId body).Ensures db fun _ db' => db' = db ∨
      ∃ occurred received, Recorded user receiptId body occurred received db db' ∧
        (Valued (newReceipt user receiptId body occurred received) received ↔
          ∀ line ∈ body.lines, LineSettles (receiptIngredients user body db) line) := by
  refine createGoodsReceipt_records.mono fun reply db' h => ?_
  rcases h with hsame | ⟨occurred, received, hrecorded⟩
  · exact .inl hsame
  · exact .inr ⟨occurred, received, hrecorded, valued_iff hrecorded.resolved⟩

-- A thousand bags of three kilograms at ten rand: a third of a micro-cent a gram is lost.
def flour : Ingredient where
  id := 2
  businessId := 1
  name := "Flour"
  canonicalUnit := .gram
  purchasePackMilli := 3000000

def flourStore : Database where
  businesses := [{ id := 1, inventoryEnabled := true }]
  ingredients := [flour]
  now := 100
  valid := Tables.violation_eq_none.mp (by decide +kernel)

def clerk : AuthUser where
  userId := 9
  businessId := 1
  role := .staff

def bags : GoodsReceiptLineRequest where
  ingredientId := 2
  quantity := "1000"
  unit := "PACK"
  unitCostCents := some 1000
  unitShort := by decide
  costNonnegative := by decide

def thousandBags : GoodsReceiptCreateRequest where
  lines := [bags]
  supplierId := none
  reference := none
  notes := none
  occurredAt := none
  idempotencyKey := none
  linesNonempty := by simp
  referenceShort := by simp
  keyShort := by simp

theorem thousand_bags_lose_a_cent :
    ¬ ∀ (user : AuthUser) (receiptId : Uuid) (body : GoodsReceiptCreateRequest) (db : Database),
      (createGoodsReceipt user receiptId body).Ensures db fun _ db' => db' = db ∨
        ∃ occurred received, Recorded user receiptId body occurred received db db' ∧
          Valued (newReceipt user receiptId body occurred received) received := by
  intro h
  rcases h clerk 5 thousandBags flourStore with hsame | ⟨occurred, received, hrecorded, hvalued⟩
  · have hcount := congrArg (fun db : Database => db.goodsReceipts.length) hsame
    revert hcount
    decide +kernel
  · have hsettles := (valued_iff hrecorded.resolved).mp hvalued bags (by simp [thousandBags])
    have hlost := hsettles flour (by decide +kernel) 1000 rfl 1000000 3000000000
      (by decide +kernel) (by decide +kernel)
    revert hlost
    decide

end NextgenBackend.ReceiptValuation
