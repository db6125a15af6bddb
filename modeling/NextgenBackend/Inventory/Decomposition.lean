import NextgenBackend.Api.RoutesStocktake

namespace NextgenBackend.Decomposition

open Txn Inventory RoutesStocktake

def stockMoved (movements : List StockMovement) (businessId ingredientId : Uuid)
    (since upTo : Option Instant) : Int :=
  ((movements.filter fun m =>
    m.businessId = businessId ∧ m.ingredientId = ingredientId ∧ dated since upTo m).map
      (·.quantityMilli)).sum

variable {movements : List StockMovement} {businessId ingredientId : Uuid}
  {since upTo : Option Instant} {ingredientIds : List Uuid}

theorem stockMoved_cons {m : StockMovement} :
    stockMoved (m :: movements) businessId ingredientId since upTo =
      (if m.businessId = businessId ∧ m.ingredientId = ingredientId ∧ dated since upTo m
        then m.quantityMilli else 0) + stockMoved movements businessId ingredientId since upTo := by
  unfold stockMoved
  rw [List.filter_cons]
  split
  next h =>
    have h' := of_decide_eq_true h
    simp [h']
  next h =>
    have h' : ¬ (m.businessId = businessId ∧ m.ingredientId = ingredientId ∧
        dated since upTo m) := fun hm => h (decide_eq_true hm)
    simp [h']

theorem stockMoved_append {later : List StockMovement} :
    stockMoved (movements ++ later) businessId ingredientId since upTo =
      stockMoved movements businessId ingredientId since upTo +
        stockMoved later businessId ingredientId since upTo := by
  simp [stockMoved]

theorem ledgerRows_of_ingredient (h : ingredientIds = [] ∨ ingredientId ∈ ingredientIds) :
    (ledgerRows movements businessId since upTo ingredientIds).filter
        (fun m => m.ingredientId = ingredientId) =
      movements.filter fun m =>
        m.businessId = businessId ∧ m.ingredientId = ingredientId ∧ dated since upTo m := by
  unfold ledgerRows
  rw [List.filter_filter]
  congr 1
  funext m
  by_cases hm : m.ingredientId = ingredientId
  · simp [hm, h]
  · simp [hm]

theorem quantity_stockOnHand (h : ingredientIds = [] ∨ ingredientId ∈ ingredientIds) :
    GroupBy.quantity (stockOnHand movements businessId upTo ingredientIds) ingredientId =
      stockMoved movements businessId ingredientId none upTo := by
  unfold stockOnHand
  rw [GroupBy.quantity_sums, ledgerRows_of_ingredient h]
  rfl

theorem total_movementTotalsByType (h : ingredientId ∈ ingredientIds) :
    GroupBy.total (fun k => k.1 = ingredientId)
        (movementTotalsByType movements businessId since upTo ingredientIds) =
      stockMoved movements businessId ingredientId since upTo := by
  unfold movementTotalsByType
  rw [GroupBy.total_sums, ledgerRows_of_ingredient (.inr h)]
  rfl

theorem dated_split {start cutoff : Instant} (h : start ≤ cutoff) (m : StockMovement) :
    dated none (some start) m = true ∧ dated (some start) (some cutoff) m = false ∧
        dated none (some cutoff) m = true ∨
      dated none (some start) m = false ∧
        dated (some start) (some cutoff) m = dated none (some cutoff) m := by
  simp only [dated, Option.all_none, Option.all_some, Bool.true_and]
  rcases le_or_gt m.occurredAt start with hle | hlt
  · have hcutoff : m.occurredAt ≤ cutoff := hle.trans h
    simp [hle, hcutoff]
  · have hnot : ¬ m.occurredAt ≤ start := hlt.not_ge
    simp [hlt, hnot]

-- Opening stock ends at the instant where the period begins, so a movement falls in one of the two.
theorem stockMoved_split {start cutoff : Instant} (h : start ≤ cutoff) :
    stockMoved movements businessId ingredientId none (some start) +
        stockMoved movements businessId ingredientId (some start) (some cutoff) =
      stockMoved movements businessId ingredientId none (some cutoff) := by
  induction movements with
  | nil => rfl
  | cons m movements ih =>
      simp only [stockMoved_cons]
      rcases dated_split h m with ⟨hbefore, hwithin, hupTo⟩ | ⟨hbefore, hwithin⟩
      · simp only [hbefore, hwithin, hupTo, Bool.false_eq_true, and_false, if_false]
        omega
      · simp only [hbefore, hwithin, Bool.false_eq_true, and_false, if_false]
        omega

-- Every movement type lands in exactly one term, with the sign that term enters the equation with.
theorem expected_addMovementTotal {v : IngredientVariance} {movementType : StockMovementType}
    {quantity : Int} :
    (addMovementTotal v movementType quantity).expectedMilli = v.expectedMilli + quantity := by
  unfold addMovementTotal IngredientVariance.expectedMilli
  split
  · dsimp only
    omega
  · split
    · dsimp only
      omega
    · split
      · dsimp only
        omega
      · dsimp only
        omega

theorem expected_foldl {v : IngredientVariance} {totals : List ((Uuid × StockMovementType) × Int)} :
    (totals.foldl (fun v entry =>
        if entry.1.1 = ingredientId then addMovementTotal v entry.1.2 entry.2 else v)
      v).expectedMilli =
      v.expectedMilli + GroupBy.total (fun k => k.1 = ingredientId) totals := by
  induction totals generalizing v with
  | nil => simp
  | cons entry totals ih =>
      rw [List.foldl_cons, ih, GroupBy.total_cons]
      by_cases h : entry.1.1 = ingredientId
      · simp only [h, if_true, decide_true, expected_addMovementTotal]
        omega
      · simp [h]

theorem expected_ingredientVariance {opening : List (Uuid × Int)}
    {totals : List ((Uuid × StockMovementType) × Int)} {ingredient : Ingredient} :
    (ingredientVariance opening totals ingredient).expectedMilli =
      GroupBy.quantity opening ingredient.id +
        GroupBy.total (fun k => k.1 = ingredient.id) totals := by
  unfold ingredientVariance
  rw [expected_foldl]
  simp [IngredientVariance.expectedMilli]

theorem openingStock_run (db : Database) (businessId : Uuid) (session : StocktakeSession)
    (ingredientIds : List Uuid) :
    ∃ opening, (openingStock businessId session ingredientIds).run db = (.ok opening, db) ∧
      ∀ ingredientId ∈ ingredientIds, GroupBy.quantity opening ingredientId =
        session.periodStartAt.elim 0 fun start =>
          stockMoved db.stockMovements businessId ingredientId none (some start) := by
  unfold openingStock
  cases session.periodStartAt with
  | none => exact ⟨[], rfl, fun _ _ => rfl⟩
  | some start => exact ⟨_, rfl, fun _ h => quantity_stockOnHand (.inr h)⟩

theorem computeVariances_run (db : Database) (businessId : Uuid) (session : StocktakeSession)
    (ingredients : List Ingredient) :
    ∃ opening, (∀ i ∈ ingredients, GroupBy.quantity opening i.id =
        session.periodStartAt.elim 0 fun start =>
          stockMoved db.stockMovements businessId i.id none (some start)) ∧
      (computeVariances businessId session ingredients).run db =
        (.ok (ingredients.map fun i => (i.id, ingredientVariance opening
          (movementTotalsByType db.stockMovements businessId session.periodStartAt
            (some session.cutoffAt) (ingredients.map (·.id))) i)), db) := by
  obtain ⟨opening, hrun, hopening⟩ :=
    openingStock_run db businessId session (ingredients.map (·.id))
  have hquantity : ∀ i ∈ ingredients, GroupBy.quantity opening i.id =
      session.periodStartAt.elim 0 fun start =>
        stockMoved db.stockMovements businessId i.id none (some start) := by
    intro i hi
    exact hopening i.id (List.mem_map_of_mem hi)
  refine ⟨opening, hquantity, ?_⟩
  unfold computeVariances
  simp only [bind_eq, run_bind, hrun]
  rfl

theorem opening_add_period {db : Database} {session : StocktakeSession}
    (hperiod : ∀ start ∈ session.periodStartAt, start ≤ session.cutoffAt) :
    (session.periodStartAt.elim 0 fun start =>
        stockMoved db.stockMovements businessId ingredientId none (some start)) +
        stockMoved db.stockMovements businessId ingredientId session.periodStartAt
          (some session.cutoffAt) =
      stockMoved db.stockMovements businessId ingredientId none (some session.cutoffAt) := by
  cases hstart : session.periodStartAt with
  | none => simp
  | some start =>
      have hle : start ≤ session.cutoffAt := hperiod start (by simp [hstart])
      exact stockMoved_split hle

theorem computeVariances_at_cutoff (db : Database) (businessId : Uuid) (session : StocktakeSession)
    (ingredients : List Ingredient)
    (hperiod : ∀ start ∈ session.periodStartAt, start ≤ session.cutoffAt) :
    ∃ v : Ingredient → IngredientVariance,
      (computeVariances businessId session ingredients).run db =
        (.ok (ingredients.map fun i => (i.id, v i)), db) ∧
      ∀ i ∈ ingredients, (v i).expectedMilli =
        stockMoved db.stockMovements businessId i.id none (some session.cutoffAt) := by
  obtain ⟨opening, hopening, hrun⟩ := computeVariances_run db businessId session ingredients
  refine ⟨_, hrun, fun i hi => ?_⟩
  have htotal : GroupBy.total (fun k => k.1 = i.id)
      (movementTotalsByType db.stockMovements businessId session.periodStartAt
        (some session.cutoffAt) (ingredients.map (·.id))) =
      stockMoved db.stockMovements businessId i.id session.periodStartAt
        (some session.cutoffAt) :=
    total_movementTotalsByType (List.mem_map_of_mem hi)
  rw [expected_ingredientVariance, hopening i hi, htotal, opening_add_period hperiod]

theorem expected_is_stock_at_cutoff (db : Database) (businessId : Uuid)
    (session : StocktakeSession) (ingredients : List Ingredient)
    (hperiod : ∀ start ∈ session.periodStartAt, start ≤ session.cutoffAt) :
    ∃ variances, (computeVariances businessId session ingredients).run db = (.ok variances, db) ∧
      variances.map (·.1) = ingredients.map (·.id) ∧
      ∀ entry ∈ variances,
        entry.2.openingMilli + entry.2.receivedMilli - entry.2.theoreticalConsumptionMilli -
            entry.2.wastageMilli + entry.2.adjustmentMilli =
          GroupBy.quantity
            (stockOnHand db.stockMovements businessId (some session.cutoffAt) []) entry.1 := by
  obtain ⟨v, hrun, hexpected⟩ := computeVariances_at_cutoff db businessId session ingredients hperiod
  refine ⟨_, hrun, by simp, ?_⟩
  intro entry hentry
  obtain ⟨i, hi, rfl⟩ := List.mem_map.1 hentry
  rw [quantity_stockOnHand (.inl rfl), ← hexpected i hi]
  rfl

def flour : Ingredient where
  id := 2
  businessId := 1
  name := "Flour"
  canonicalUnit := .gram

def moved (movementType : StockMovementType) (quantityMilli : Int) (occurredAt : Instant) :
    StockMovement :=
  buildMovement 1 2 quantityMilli movementType 0 none none none none none occurredAt

def pantry : Database where
  businesses := [{ id := 1 }]
  ingredients := [flour]
  stockMovements :=
    [moved .openingBalance 5000 10, moved .goodsReceived 2000 11, moved .saleConsumption (-700) 20,
      moved .wastage (-100) 15, moved .goodsReceived 9000 21]
  now := 30
  valid := Tables.violation_eq_none.mp (by decide +kernel)

def secondCount : StocktakeSession where
  id := 4
  businessId := 1
  reference := none
  cutoffAt := 20
  periodStartAt := some 10
  openedByUserId := none
  openedAt := 20

theorem boundary_movements_counted_once :
    ∃ variances, (computeVariances 1 secondCount [flour]).run pantry = (.ok variances, pantry) ∧
      variances.map (·.1) = [flour].map (·.id) ∧
      ∀ entry ∈ variances,
        entry.2.openingMilli + entry.2.receivedMilli - entry.2.theoreticalConsumptionMilli -
            entry.2.wastageMilli + entry.2.adjustmentMilli =
          GroupBy.quantity
            (stockOnHand pantry.stockMovements 1 (some secondCount.cutoffAt) []) entry.1 :=
  expected_is_stock_at_cutoff pantry 1 secondCount [flour]
    fun start hstart => Option.some.inj hstart ▸ (by decide)

end NextgenBackend.Decomposition
