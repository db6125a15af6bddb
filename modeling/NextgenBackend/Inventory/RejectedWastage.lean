import NextgenBackend.Inventory.Decomposition
import NextgenBackend.Inventory.WastageReview

namespace NextgenBackend.RejectedWastage

open Inventory RoutesStocktake RoutesWastage WastageReview Decomposition

variable {v : IngredientVariance} {movementType : StockMovementType} {quantity : Int}
  {rows : List StockMovement} {m r : StockMovement} {entryId : Uuid}

-- What the report reads of the ledger for one ingredient.
def periodRows (db : Database) (businessId : Uuid) (session : StocktakeSession)
    (ingredientId : Uuid) : List StockMovement :=
  db.stockMovements.filter fun m => m.businessId = businessId ∧ m.ingredientId = ingredientId ∧
    dated session.periodStartAt (some session.cutoffAt) m

def moved (p : StockMovementType → Bool) (rows : List StockMovement) : Int :=
  ((rows.filter fun m => p m.movementType).map (·.quantityMilli)).sum

def isWastage (movementType : StockMovementType) : Bool := movementType ∈ wastageTypes

def isReversal (movementType : StockMovementType) : Bool := movementType = .wastageReversal

def isAdjustment (movementType : StockMovementType) : Bool :=
  movementType ∉ receiptTypes ∧ movementType ∉ consumptionTypes ∧ movementType ∉ wastageTypes

-- What was wasted and not given back.
def netWastage (rows : List StockMovement) : Int :=
  -moved (fun t => isWastage t || isReversal t) rows

def attributed (rows : List StockMovement) : IngredientVariance :=
  rows.foldl (fun v m => addMovementTotal v m.movementType m.quantityMilli) {}

-- A term of the report takes the quantities of the movement types of its own, with one sign.
structure Takes (term : IngredientVariance → Int) (p : StockMovementType → Bool) (sign : Int) :
    Prop where
  step : ∀ v movementType quantity, term (addMovementTotal v movementType quantity) =
    term v + sign * if p movementType then quantity else 0

theorem wastage_takes : Takes (·.wastageMilli) isWastage (-1) := by
  constructor
  intro v movementType quantity
  cases movementType <;>
    simp [addMovementTotal, receiptTypes, consumptionTypes, wastageTypes, isWastage]

theorem adjustment_takes : Takes (·.adjustmentMilli) isAdjustment 1 := by
  constructor
  intro v movementType quantity
  cases movementType <;>
    simp [addMovementTotal, receiptTypes, consumptionTypes, wastageTypes, isAdjustment]

theorem moved_cons (p : StockMovementType → Bool) :
    moved p (m :: rows) = (if p m.movementType then m.quantityMilli else 0) + moved p rows := by
  unfold moved
  cases h : p m.movementType <;> simp [h]

theorem netWastage_eq : netWastage rows = -moved isWastage rows - moved isReversal rows := by
  induction rows with
  | nil => rfl
  | cons m rows ih =>
      unfold netWastage at ih ⊢
      simp only [moved_cons]
      have hapart : isWastage m.movementType = true → isReversal m.movementType = false := by
        cases m.movementType <;> decide
      cases hwastage : isWastage m.movementType with
      | true => simp [hapart hwastage]; omega
      | false => simp; omega

section Terms

variable {term : IngredientVariance → Int} {p : StockMovementType → Bool} {sign : Int}
  {db : Database} {businessId ingredientId : Uuid} {session : StocktakeSession}

theorem Takes.foldl_totals (h : Takes term p sign)
    {totals : List ((Uuid × StockMovementType) × Int)} :
    term (totals.foldl (fun v entry =>
        if entry.1.1 = ingredientId then addMovementTotal v entry.1.2 entry.2 else v) v) =
      term v + sign * GroupBy.total (fun k => decide (k.1 = ingredientId) && p k.2) totals := by
  induction totals generalizing v with
  | nil => simp
  | cons entry totals ih =>
      rw [List.foldl_cons, ih, GroupBy.total_cons, mul_add]
      by_cases hid : entry.1.1 = ingredientId
      · simp only [hid, if_true, decide_true, Bool.true_and, h.step]
        omega
      · simp [hid]

theorem Takes.foldl_rows (h : Takes term p sign) :
    term (rows.foldl (fun v m => addMovementTotal v m.movementType m.quantityMilli) v) =
      term v + sign * moved p rows := by
  induction rows generalizing v with
  | nil => simp [moved]
  | cons m rows ih =>
      rw [List.foldl_cons, ih, moved_cons, h.step, mul_add]
      omega

theorem total_typed {ingredientIds : List Uuid} (hid : ingredientId ∈ ingredientIds) :
    GroupBy.total (fun k => decide (k.1 = ingredientId) && p k.2)
        (movementTotalsByType db.stockMovements businessId session.periodStartAt
          (some session.cutoffAt) ingredientIds) =
      moved p (periodRows db businessId session ingredientId) := by
  unfold movementTotalsByType moved periodRows
  rw [GroupBy.total_sums, ← ledgerRows_of_ingredient (.inr hid), List.filter_filter]
  simp only [Bool.and_comm]

-- The report's own grouping of the ledger changes nothing: it takes every row of the period.
theorem Takes.reported (h : Takes term p sign) (hzero : ∀ v : IngredientVariance,
      term { openingMilli := v.openingMilli, unitCostMicroCents := v.unitCostMicroCents } = 0)
    {opening : List (Uuid × Int)} {ingredients : List Ingredient} {i : Ingredient}
    (hi : i ∈ ingredients) :
    term (ingredientVariance opening (movementTotalsByType db.stockMovements businessId
      session.periodStartAt (some session.cutoffAt) (ingredients.map (·.id))) i) =
      sign * moved p (periodRows db businessId session i.id) := by
  unfold ingredientVariance
  rw [h.foldl_totals, total_typed (List.mem_map_of_mem hi)]
  rw [hzero { openingMilli := GroupBy.quantity opening i.id,
              unitCostMicroCents := i.costPerCanonicalMicroCents }, zero_add]

end Terms

theorem moved_perm {rows rows' : List StockMovement} (h : rows.Perm rows')
    (p : StockMovementType → Bool) : moved p rows = moved p rows' :=
  ((h.filter _).map _).sum_eq

-- The reversal gives back what the recorded loss took.
structure Rejects (m r : StockMovement) : Prop where
  recorded : isWastage m.movementType = true
  reversal : isReversal r.movementType = true
  quantity : r.quantityMilli = -m.quantityMilli
  loss : m.quantityMilli < 0

def RejectedWithin (rows : List StockMovement) (entryId : Uuid) : Prop :=
  ∃ m r, (rows.filter (isReference entryId)).Perm [m, r] ∧ Rejects m r

structure EntryAttributed (rows : List StockMovement) (entryId : Uuid) : Prop where
  kept : ∀ m, rows.filter (isReference entryId) = [m] → isWastage m.movementType = true →
    (attributed (rows.filter (isReference entryId))).wastageMilli = -m.quantityMilli ∧
      (attributed (rows.filter (isReference entryId))).adjustmentMilli = 0
  rejected : RejectedWithin rows entryId →
    (attributed (rows.filter (isReference entryId))).wastageMilli = 0 ∧
      (attributed (rows.filter (isReference entryId))).adjustmentMilli = 0

structure ReportsNetWastage (rows : List StockMovement) (v : IngredientVariance) : Prop where
  net : v.wastageMilli = netWastage rows
  entries : ∀ entryId, EntryAttributed rows entryId

theorem wastage_attributed : (attributed rows).wastageMilli = -moved isWastage rows := by
  unfold attributed
  rw [wastage_takes.foldl_rows]
  simp

theorem adjustment_attributed : (attributed rows).adjustmentMilli = moved isAdjustment rows := by
  unfold attributed
  rw [adjustment_takes.foldl_rows]
  simp

theorem not_isAdjustment_of_isWastage (h : isWastage movementType = true) :
    isAdjustment movementType = false := by
  cases movementType <;> first | rfl | cases h

theorem attributed_of_rejected (h : RejectedWithin rows entryId) :
    (attributed (rows.filter (isReference entryId))).adjustmentMilli ≠ 0 := by
  obtain ⟨m, r, hperm, hrejects⟩ := h
  rw [adjustment_attributed, moved_perm hperm, moved_cons, moved_cons]
  have hrecorded := not_isAdjustment_of_isWastage hrejects.recorded
  have hreversal : isAdjustment r.movementType = true := by
    rw [of_decide_eq_true hrejects.reversal]
    rfl
  have hloss := hrejects.loss
  simp only [hrecorded, hreversal, hrejects.quantity, moved, List.filter_nil, List.map_nil,
    List.sum_nil, if_true, Bool.false_eq_true, if_false]
  omega

theorem attributed_of_kept (hrows : rows.filter (isReference entryId) = [m])
    (hwastage : isWastage m.movementType = true) :
    (attributed (rows.filter (isReference entryId))).wastageMilli = -m.quantityMilli ∧
      (attributed (rows.filter (isReference entryId))).adjustmentMilli = 0 := by
  rw [wastage_attributed, adjustment_attributed, hrows, moved_cons, moved_cons, hwastage,
    not_isAdjustment_of_isWastage hwastage]
  simp [moved]

theorem reportsNetWastage_iff (hreported : v.wastageMilli = -moved isWastage rows) :
    ReportsNetWastage rows v ↔
      moved isReversal rows = 0 ∧ ∀ entryId, ¬ RejectedWithin rows entryId := by
  constructor
  · intro h
    refine ⟨?_, fun entryId hrejected => ?_⟩
    · have hnet := h.net
      rw [hreported, netWastage_eq] at hnet
      omega
    · exact attributed_of_rejected hrejected ((h.entries entryId).rejected hrejected).2
  · rintro ⟨hreversals, hnone⟩
    constructor
    · rw [hreported, netWastage_eq, hreversals, sub_zero]
    · intro entryId
      exact ⟨fun m => attributed_of_kept, fun hrejected => absurd hrejected (hnone entryId)⟩

theorem wastage_term_net_iff (db : Database) (businessId : Uuid) (session : StocktakeSession)
    (ingredients : List Ingredient) :
    ∃ v : Ingredient → IngredientVariance,
      (computeVariances businessId session ingredients).run db =
        (.ok (ingredients.map fun i => (i.id, v i)), db) ∧
      ∀ i ∈ ingredients, ReportsNetWastage (periodRows db businessId session i.id) (v i) ↔
        moved isReversal (periodRows db businessId session i.id) = 0 ∧
          ∀ entryId, ¬ RejectedWithin (periodRows db businessId session i.id) entryId := by
  obtain ⟨opening, -, hrun⟩ := computeVariances_run db businessId session ingredients
  refine ⟨_, hrun, fun i hi => reportsNetWastage_iff ?_⟩
  have hreported : (ingredientVariance opening (movementTotalsByType db.stockMovements businessId
      session.periodStartAt (some session.cutoffAt) (ingredients.map (·.id))) i).wastageMilli =
      -1 * moved isWastage (periodRows db businessId session i.id) :=
    wastage_takes.reported (fun _ => rfl) hi
  omega

def spilledFlour : StockMovement :=
  { Decomposition.moved .wastage (-100) 15 with sourceType := some .wastageEntry, sourceId := some 6 }

def givenBack : StockMovement :=
  { Decomposition.moved .wastageReversal 100 16 with sourceType := some .wastageEntry, sourceId := some 6 }

def larder : Database where
  businesses := [{ id := 1 }]
  ingredients := [flour]
  stockMovements := [Decomposition.moved .openingBalance 5000 10, spilledFlour, givenBack]
  now := 30
  valid := Tables.violation_eq_none.mp (by decide +kernel)

theorem rejected_wastage_still_reported :
    ¬ ∀ (db : Database) (businessId : Uuid) (session : StocktakeSession)
      (ingredients : List Ingredient), ∃ v : Ingredient → IngredientVariance,
      (computeVariances businessId session ingredients).run db =
        (.ok (ingredients.map fun i => (i.id, v i)), db) ∧
      ∀ i ∈ ingredients, ReportsNetWastage (periodRows db businessId session i.id) (v i) := by
  intro h
  obtain ⟨v, hrun, hreports⟩ := h larder 1 secondCount [flour]
  have hwastage : ((computeVariances 1 secondCount [flour]).run larder).1.toOption.map
      (List.map (·.2.wastageMilli)) = some [100] := by decide +kernel
  have hnet : netWastage (periodRows larder 1 secondCount flour.id) = 0 := by decide +kernel
  rw [hrun] at hwastage
  have hflour := (hreports flour List.mem_cons_self).net
  rw [hnet] at hflour
  have hvalue : (v flour).wastageMilli = 100 := by simpa [Except.toOption] using hwastage
  omega

end NextgenBackend.RejectedWastage
