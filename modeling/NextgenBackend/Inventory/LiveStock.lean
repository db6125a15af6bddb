import NextgenBackend.Inventory.CutoffBalance

namespace NextgenBackend.LiveStock

open Txn Inventory RoutesStocktake Decomposition CutoffBalance

def receiptTypes : List StockMovementType :=
  [.goodsReceived]

def saleTypes : List StockMovementType :=
  [.saleConsumption, .remakeConsumption, .saleReversal]

def wastageTypes : List StockMovementType :=
  [.wastage, .staffMeal, .complimentary]

def openingTypes : List StockMovementType :=
  [.openingBalance]

structure PeriodTerms where
  received : Int := 0
  sales : Int := 0
  wastage : Int := 0
  adjustments : Int := 0
  openingInPeriod : Int := 0

def addTotal (terms : PeriodTerms) (movementType : StockMovementType) (quantity : Int) :
    PeriodTerms :=
  if movementType ∈ receiptTypes then { terms with received := terms.received + quantity }
  else if movementType ∈ saleTypes then { terms with sales := terms.sales + -quantity }
  else if movementType ∈ wastageTypes then { terms with wastage := terms.wastage + -quantity }
  else if movementType ∈ openingTypes then
    { terms with openingInPeriod := terms.openingInPeriod + quantity }
  else { terms with adjustments := terms.adjustments + quantity }

def periodTerms (totals : List ((Uuid × StockMovementType) × Int)) (ingredientId : Uuid) :
    PeriodTerms :=
  totals.foldl (fun terms entry =>
    if entry.1.1 = ingredientId then addTotal terms entry.1.2 entry.2 else terms) {}

structure LastCount where
  countedAt : Instant
  line : Option StocktakeLine

-- The quantities that the page shows; a par level, which marks a row for attention, enters none.
structure LiveStockRow where
  ingredientId : Uuid
  name : String
  opening : Int
  received : Int
  usedBySales : Int
  wastage : Int
  adjustments : Int
  expectedMilli : Int
  expectedValueCents : Cents
  lastCount : Option LastCount

structure LiveStockResponse where
  periodStartedAt : Option Instant
  totalExpectedValueCents : Cents
  ingredientCount : Nat
  rows : List LiveStockRow

def lastCountOf (lines : List StocktakeLine) (ingredientId : Uuid) (session : StocktakeSession) :
    LastCount where
  countedAt := session.cutoffAt
  line := (lines.find? fun l => l.ingredientId = ingredientId).filter
    (·.countedQuantityMilli.isSome)

def liveRow (totals : List ((Uuid × StockMovementType) × Int))
    (onHand openingAtStart : List (Uuid × Int)) (lastCount : Option StocktakeSession)
    (lines : List StocktakeLine) (ingredient : Ingredient) : LiveStockRow :=
  let terms := periodTerms totals ingredient.id
  let expected := GroupBy.quantity onHand ingredient.id
  { ingredientId := ingredient.id
    name := ingredient.name
    opening := GroupBy.quantity openingAtStart ingredient.id + terms.openingInPeriod
    received := terms.received
    usedBySales := terms.sales
    wastage := terms.wastage
    adjustments := terms.adjustments
    expectedMilli := expected
    expectedValueCents := valueCents expected ingredient.costPerCanonicalMicroCents
    lastCount := lastCount.map (lastCountOf lines ingredient.id) }

def openingAtStart (businessId : Uuid) (ingredientIds : List Uuid) :
    Option Instant → Handler (List (Uuid × Int))
  | some since => .read fun db =>
      stockOnHand db.stockMovements businessId (some since) ingredientIds
  | none => pure []

def getLiveStock (user : AuthUser) : Handler LiveStockResponse := do
  requireStaffOrAbove user
  let business ← loadBusiness user.businessId
  ensure business.inventoryEnabled
    ⟨"INVENTORY_NOT_ENABLED", "Stock tracking is not switched on for this business", 409, []⟩
  let ingredients ← .read fun db =>
    (countable user.businessId db.toTables).mergeSort fun a b => a.name ≤ b.name
  let lastCount ← .read fun db => previousSession user.businessId db.toTables
  let since := lastCount.map (·.cutoffAt)
  let ingredientIds := ingredients.map (·.id)
  let totals ← .read fun db =>
    movementTotalsByType db.stockMovements user.businessId since none ingredientIds
  let onHand ← .read fun db => stockOnHand db.stockMovements user.businessId none ingredientIds
  let opening ← openingAtStart user.businessId ingredientIds since
  let lines ← .read fun db => lastCount.elim [] fun s => sessionLines s.id db.toTables
  let rows := ingredients.map (liveRow totals onHand opening lastCount lines)
  pure
    { periodStartedAt := since
      totalExpectedValueCents := (rows.map (·.expectedValueCents)).sum
      ingredientCount := ingredients.length
      rows := rows }

-- Every count that is entered between the opening of a stocktake and its completion.
inductive CountsEntered (sessionId : Uuid) (db : Database) : Database → Prop where
  | none : CountsEntered sessionId db db
  | more {db' db'' : Database} {user : AuthUser} {body : CountSubmitRequest}
      {response : StocktakeResponse} (earlier : CountsEntered sessionId db db')
      (submitted : (submitCounts user sessionId body).run db' = (.ok response, db'')) :
      CountsEntered sessionId db db''

structure Taken (user : AuthUser) (sessionId : Uuid) (db db' : Database) : Prop where
  taken : ∃ body opened completed opening closing,
    body.cutoffAt = none ∧
    (openStocktake user sessionId body).run db = (.ok opened, opening) ∧
    CountsEntered sessionId opening closing ∧
    (completeStocktake user sessionId).run closing = (.ok completed, db')

structure Agrees (row : LiveStockRow) (line : StocktakeLine) : Prop where
  expected : row.expectedMilli = line.expectedQuantityMilli
  received : row.received = line.receivedQuantityMilli
  sales : row.usedBySales = line.theoreticalConsumptionMilli
  wastage : row.wastage = line.wastageQuantityMilli
  openingAndAdjustments : row.opening + row.adjustments =
    line.openingQuantityMilli + line.adjustmentQuantityMilli

-- What was moved after the clock, and after the last approved count's cut-off, by movements of
-- some types.
def ahead (db : Database) (businessId ingredientId : Uuid) (types : StockMovementType → Bool) : Int :=
  ((db.stockMovements.filter fun m =>
    m.businessId = businessId ∧ m.ingredientId = ingredientId ∧ types m.movementType ∧
      dated ((previousSession businessId db.toTables).map (·.cutoffAt)) none m ∧
      db.now < m.occurredAt).map (·.quantityMilli)).sum

def isOther (movementType : StockMovementType) : Bool :=
  movementType ∉ receiptTypes ∧ movementType ∉ saleTypes ∧ movementType ∉ wastageTypes

-- Of each term of the equation, the movements dated ahead of the clock come to nothing.
structure NothingAhead (db : Database) (businessId ingredientId : Uuid) : Prop where
  received : ahead db businessId ingredientId (· ∈ receiptTypes) = 0
  sales : ahead db businessId ingredientId (· ∈ saleTypes) = 0
  wastage : ahead db businessId ingredientId (· ∈ wastageTypes) = 0
  other : ahead db businessId ingredientId isOther = 0

section Terms

variable {totals : List ((Uuid × StockMovementType) × Int)} {ingredientId businessId : Uuid}
  {types : StockMovementType → Bool} {movements : List StockMovement} {since upTo : Option Instant}
  {ingredientIds : List Uuid} {terms : PeriodTerms} {v : IngredientVariance}
  {movementType : StockMovementType} {quantity : Int}

abbrev totalOf (totals : List ((Uuid × StockMovementType) × Int)) (ingredientId : Uuid)
    (types : StockMovementType → Bool) : Int :=
  GroupBy.total (fun k => decide (k.1 = ingredientId) && types k.2) totals

def movedOf (movements : List StockMovement) (businessId ingredientId : Uuid)
    (types : StockMovementType → Bool) (since upTo : Option Instant) : Int :=
  ((movements.filter fun m => m.businessId = businessId ∧ m.ingredientId = ingredientId ∧
    types m.movementType ∧ dated since upTo m).map (·.quantityMilli)).sum

-- What the four kinds of movement add to the terms of the equation.
structure Adds (terms : PeriodTerms) (received sales wastage other : Int) (terms' : PeriodTerms) :
    Prop where
  received : terms'.received = terms.received + received
  sales : terms'.sales = terms.sales + -sales
  wastage : terms'.wastage = terms.wastage + -wastage
  other : terms'.openingInPeriod + terms'.adjustments =
    terms.openingInPeriod + terms.adjustments + other

def share (types : StockMovementType → Bool) (movementType : StockMovementType) (quantity : Int) :
    Int :=
  if types movementType then quantity else 0

theorem addTotal_adds : Adds terms (share (· ∈ receiptTypes) movementType quantity)
    (share (· ∈ saleTypes) movementType quantity) (share (· ∈ wastageTypes) movementType quantity)
    (share isOther movementType quantity) (addTotal terms movementType quantity) := by
  cases movementType <;> constructor <;>
    simp [share, addTotal, isOther, receiptTypes, saleTypes, wastageTypes, openingTypes] <;> omega

-- The terms as the stocktake keeps them: what opened the period and what was adjusted in it.
def varianceTerms (v : IngredientVariance) : PeriodTerms where
  received := v.receivedMilli
  sales := v.theoreticalConsumptionMilli
  wastage := v.wastageMilli
  adjustments := v.adjustmentMilli
  openingInPeriod := v.openingMilli

theorem addMovementTotal_adds : Adds (varianceTerms v)
    (share (· ∈ receiptTypes) movementType quantity) (share (· ∈ saleTypes) movementType quantity)
    (share (· ∈ wastageTypes) movementType quantity) (share isOther movementType quantity)
    (varianceTerms (addMovementTotal v movementType quantity)) := by
  cases movementType <;> constructor <;>
    simp [share, addMovementTotal, varianceTerms, isOther, receiptTypes, saleTypes, wastageTypes,
      RoutesStocktake.receiptTypes, RoutesStocktake.consumptionTypes,
      RoutesStocktake.wastageTypes] <;> omega

theorem fold_adds {β : Type} (totals : List ((Uuid × StockMovementType) × Int))
    (ingredientId : Uuid) (view : β → PeriodTerms) (add : β → StockMovementType → Int → β)
    (hadd : ∀ b movementType quantity, Adds (view b) (share (· ∈ receiptTypes) movementType quantity)
      (share (· ∈ saleTypes) movementType quantity) (share (· ∈ wastageTypes) movementType quantity)
      (share isOther movementType quantity) (view (add b movementType quantity))) (b : β) :
    Adds (view b) (totalOf totals ingredientId (· ∈ receiptTypes))
      (totalOf totals ingredientId (· ∈ saleTypes)) (totalOf totals ingredientId (· ∈ wastageTypes))
      (totalOf totals ingredientId isOther)
      (view (totals.foldl (fun b entry =>
        if entry.1.1 = ingredientId then add b entry.1.2 entry.2 else b) b)) := by
  induction totals generalizing b with
  | nil => exact ⟨(add_zero _).symm, (add_zero _).symm, (add_zero _).symm, (add_zero _).symm⟩
  | cons entry totals ih =>
      have hcons (types : StockMovementType → Bool) : totalOf (entry :: totals) ingredientId types =
          (if entry.1.1 = ingredientId then share types entry.1.2 entry.2 else 0) +
            totalOf totals ingredientId types := by
        rw [totalOf, GroupBy.total_cons, share]
        by_cases h : entry.1.1 = ingredientId
        · simp [h]
        · simp [h]
      rw [List.foldl_cons]
      simp only [hcons]
      by_cases h : entry.1.1 = ingredientId
      · simp only [if_pos h]
        obtain ⟨hreceived, hsales, hwastage, hother⟩ := ih (add b entry.1.2 entry.2)
        have hadds := hadd b entry.1.2 entry.2
        exact ⟨by rw [hreceived, hadds.received]; omega, by rw [hsales, hadds.sales]; omega,
          by rw [hwastage, hadds.wastage]; omega, by rw [hother, hadds.other]; omega⟩
      · simp only [if_neg h, zero_add]
        exact ih b

theorem totalOf_movements (h : ingredientId ∈ ingredientIds) :
    totalOf (movementTotalsByType movements businessId since upTo ingredientIds) ingredientId types =
      movedOf movements businessId ingredientId types since upTo := by
  unfold totalOf movementTotalsByType ledgerRows movedOf
  rw [GroupBy.total_sums, List.filter_filter]
  congr 2
  refine List.filter_congr fun m _ => ?_
  by_cases hm : m.ingredientId = ingredientId
  · simp [hm, h, and_comm, and_left_comm]
  · simp [hm]

-- The live view of an ingredient, and the stocktake's, as sums over the ledger.
theorem live_terms (movements : List StockMovement) (businessId : Uuid) (since : Option Instant)
    (opening : List (Uuid × Int)) (lastCount : Option StocktakeSession) (lines : List StocktakeLine)
    (onHand : List (Uuid × Int)) {ingredient : Ingredient} (h : ingredient.id ∈ ingredientIds) :
    Adds { openingInPeriod := GroupBy.quantity opening ingredient.id }
      (movedOf movements businessId ingredient.id (· ∈ receiptTypes) since none)
      (movedOf movements businessId ingredient.id (· ∈ saleTypes) since none)
      (movedOf movements businessId ingredient.id (· ∈ wastageTypes) since none)
      (movedOf movements businessId ingredient.id isOther since none)
      (let row := liveRow (movementTotalsByType movements businessId since none ingredientIds) onHand
        opening lastCount lines ingredient
      ⟨row.received, row.usedBySales, row.wastage, row.adjustments, row.opening⟩) := by
  have hadds := fold_adds (movementTotalsByType movements businessId since none ingredientIds)
    ingredient.id id addTotal (fun _ _ _ => addTotal_adds) {}
  simp only [totalOf_movements h] at hadds
  refine ⟨hadds.received, hadds.sales, hadds.wastage, ?_⟩
  have hother := hadds.other
  simp only [liveRow, periodTerms, id] at hother ⊢
  omega

theorem variance_terms (movements : List StockMovement) (businessId : Uuid)
    (since upTo : Option Instant) (opening : List (Uuid × Int)) {ingredient : Ingredient}
    (h : ingredient.id ∈ ingredientIds) :
    Adds { openingInPeriod := GroupBy.quantity opening ingredient.id }
      (movedOf movements businessId ingredient.id (· ∈ receiptTypes) since upTo)
      (movedOf movements businessId ingredient.id (· ∈ saleTypes) since upTo)
      (movedOf movements businessId ingredient.id (· ∈ wastageTypes) since upTo)
      (movedOf movements businessId ingredient.id isOther since upTo)
      (varianceTerms (ingredientVariance opening
        (movementTotalsByType movements businessId since upTo ingredientIds) ingredient)) := by
  have hadds := fold_adds (movementTotalsByType movements businessId since upTo ingredientIds)
    ingredient.id varianceTerms addMovementTotal
    (fun _ _ _ => addMovementTotal_adds)
    { openingMilli := GroupBy.quantity opening ingredient.id
      unitCostMicroCents := ingredient.costPerCanonicalMicroCents }
  simp only [totalOf_movements h] at hadds
  exact hadds

theorem movedOf_cons {m : StockMovement} :
    movedOf (m :: movements) businessId ingredientId types since upTo =
      (if m.businessId = businessId ∧ m.ingredientId = ingredientId ∧ dated since upTo m then
        share types m.movementType m.quantityMilli else 0) +
        movedOf movements businessId ingredientId types since upTo := by
  unfold movedOf share
  by_cases h : m.businessId = businessId ∧ m.ingredientId = ingredientId ∧ dated since upTo m
  · by_cases ht : types m.movementType
    · simp [h, ht]
    · simp [h, ht]
  · have hnot : ¬ (m.businessId = businessId ∧ m.ingredientId = ingredientId ∧
        types m.movementType ∧ dated since upTo m) := fun hm => h ⟨hm.1, hm.2.1, hm.2.2.2⟩
    simp [h, hnot]

theorem share_all : share (· ∈ receiptTypes) movementType quantity +
    share (· ∈ saleTypes) movementType quantity + share (· ∈ wastageTypes) movementType quantity +
      share isOther movementType quantity = quantity := by
  cases movementType <;> simp [share, isOther, receiptTypes, saleTypes, wastageTypes]

theorem movedOf_all : movedOf movements businessId ingredientId (· ∈ receiptTypes) since upTo +
    movedOf movements businessId ingredientId (· ∈ saleTypes) since upTo +
    movedOf movements businessId ingredientId (· ∈ wastageTypes) since upTo +
    movedOf movements businessId ingredientId isOther since upTo =
      stockMoved movements businessId ingredientId since upTo := by
  induction movements with
  | nil => rfl
  | cons m movements ih =>
      have hshare := @share_all m.movementType m.quantityMilli
      simp only [movedOf_cons, stockMoved_cons]
      split
      · omega
      · omega

theorem moved_after {start : Instant} :
    stockMoved movements businessId ingredientId none (some start) +
        stockMoved movements businessId ingredientId (some start) none =
      stockMoved movements businessId ingredientId none none := by
  induction movements with
  | nil => rfl
  | cons m movements ih =>
      simp only [stockMoved_cons, dated, Option.all_none, Option.all_some, Bool.true_and,
        Bool.and_true, decide_eq_true_eq]
      by_cases hm : m.businessId = businessId ∧ m.ingredientId = ingredientId
      · rcases le_or_gt m.occurredAt start with hle | hlt
        · simp only [hm, hle, hle.not_gt, and_true, and_false, if_true, if_false]
          omega
        · simp only [hm, hlt, hlt.not_ge, and_true, and_false, if_true, if_false]
          omega
      · have hnot (p : Prop) : ¬ (m.businessId = businessId ∧ m.ingredientId = ingredientId ∧ p) :=
          fun h => hm ⟨h.1, h.2.1⟩
        simp only [hnot, if_false]
        omega

end Terms

section Agreement

variable {db : Database} {businessId ingredientId : Uuid} {types : StockMovementType → Bool}

abbrev since (db : Database) (businessId : Uuid) : Option Instant :=
  (previousSession businessId db.toTables).map (·.cutoffAt)

theorem movedOf_ahead :
    movedOf db.stockMovements businessId ingredientId types (since db businessId) none =
      movedOf db.stockMovements businessId ingredientId types (since db businessId) (some db.now) +
        ahead db businessId ingredientId types := by
  unfold movedOf ahead since
  generalize (previousSession businessId db.toTables).map (·.cutoffAt) = start
  generalize db.stockMovements = movements
  induction movements with
  | nil => rfl
  | cons m movements ih =>
      simp only [List.filter_cons, dated, Option.all_none, Option.all_some, Bool.and_true,
        Bool.and_eq_true, decide_eq_true_eq] at ih ⊢
      rcases le_or_gt m.occurredAt db.now with hle | hlt
      · simp only [hle, hle.not_gt, and_true, and_false, if_false]
        split
        · simp only [List.map_cons, List.sum_cons]
          omega
        · exact ih
      · simp only [hlt, hlt.not_ge, and_true, and_false, if_false]
        split
        · simp only [List.map_cons, List.sum_cons]
          omega
        · exact ih

-- The ledger and the counted ingredients, which entering counts leaves alone.
structure SameBooks (sessionId : Uuid) (db db' : Database) : Prop where
  movements : db'.stockMovements = db.stockMovements
  ingredients : db'.ingredients = db.ingredients
  sessions : db'.stocktakeSessions = db.stocktakeSessions
  lines : (sessionLines sessionId db'.toTables).map (·.ingredientId) =
    (sessionLines sessionId db.toTables).map (·.ingredientId)

variable {db' db'' opening closing : Database} {user : AuthUser} {sessionId : Uuid}
  {rows : List LiveStockRow} {i : Ingredient}

theorem sameBooks_submit {body : CountSubmitRequest} {response : StocktakeResponse}
    (hrun : (submitCounts user sessionId body).run db = (.ok response, db')) :
    SameBooks sessionId db db' := by
  have hwrites := submitCounts_ensures.elim hrun
  rcases hwrites.2 with ⟨⟨e, he⟩, -⟩ | ⟨-, hrecounted⟩
  · cases he
  · obtain ⟨set, hset, htables⟩ := hrecounted.tables
    refine ⟨by rw [htables], by rw [htables], by rw [htables], ?_⟩
    rw [sessionLines_map (fun l => (hset l).1) (by rw [htables]), List.map_map]
    exact List.map_congr_left fun l _ => (hset l).1.ingredient

theorem sameBooks_entered (h : CountsEntered sessionId db db') : SameBooks sessionId db db' := by
  induction h with
  | none => exact ⟨rfl, rfl, rfl, rfl⟩
  | more earlier submitted ih =>
      have hsame := sameBooks_submit submitted
      exact ⟨hsame.movements.trans ih.movements, hsame.ingredients.trans ih.ingredients,
        hsame.sessions.trans ih.sessions, hsame.lines.trans ih.lines⟩

theorem opened_books {body : StocktakeOpenRequest} {response : StocktakeResponse}
    (hrun : (openStocktake user sessionId body).run db = (.ok response, opening)) :
    opening.stockMovements = db.stockMovements ∧ opening.ingredients = db.ingredients ∧
      opening.stocktakeSessions.lookup sessionId =
        some (newSession user sessionId body (previousSession user.businessId db.toTables) db.now) ∧
      ∀ i ∈ countable user.businessId db.toTables,
        i.id ∈ (sessionLines sessionId opening.toTables).map (·.ingredientId) := by
  have hwrites := openStocktake_ensures.elim hrun
  rcases hwrites.2 with ⟨⟨e, he⟩, -⟩ | ⟨-, hopened⟩
  · cases he
  · have htables := hopened.tables
    have hsessions := congrArg Tables.stocktakeSessions htables
    have hpk := opening.valid .stocktakeSessionsPkey
    simp only [Constraint.Holds, hsessions, insertSession] at hpk
    refine ⟨by rw [htables]; rfl, by rw [htables]; rfl, ?_, fun i hi => ?_⟩
    · rw [hsessions]
      exact Table.lookup_insert_self (Table.primaryKey_insert.mp hpk).2
    · refine List.mem_map.mpr ⟨newLine user.businessId sessionId i, ?_, rfl⟩
      unfold sessionLines
      rw [htables]
      simp only [insertSession, List.filter_append, List.mem_append]
      exact .inr (List.mem_filter.mpr ⟨List.mem_map_of_mem hi, by simp [newLine]⟩)

-- What completion writes on the line of a counted ingredient.
theorem completed_line {response : StocktakeResponse} {s : StocktakeSession}
    (hrun : (completeStocktake user sessionId).run closing = (.ok response, db'))
    (hs : closing.stocktakeSessions.lookup sessionId = some s) :
    (sessionLines sessionId db'.toTables).map (·.ingredientId) =
        (sessionLines sessionId closing.toTables).map (·.ingredientId) ∧
    ∀ line ∈ sessionLines sessionId db'.toTables, ∀ i ∈ closing.ingredients,
      i.businessId = user.businessId → i.id = line.ingredientId →
      ∃ openingStock ids i', i'.id = i.id ∧ i.id ∈ ids ∧
        (GroupBy.quantity openingStock i.id = s.periodStartAt.elim 0 fun start =>
          stockMoved closing.stockMovements user.businessId i.id none (some start)) ∧
        ∃ l, line = snapshot (countInto l (ingredientVariance openingStock
          (movementTotalsByType closing.stockMovements user.businessId s.periodStartAt
            (some s.cutoffAt) ids) i')) l := by
  have hwrites := completeStocktake_ensures.elim hrun
  rcases hwrites.2 with ⟨⟨e, he⟩, -⟩ | ⟨-, hcompleted⟩
  · cases he
  · obtain ⟨s', variances, hown, -, -, hvariances, htables⟩ := hcompleted.tables
    obtain rfl : s' = s := Option.some.inj ((ownSession_some hown).1.symm.trans hs)
    have hlines : sessionLines sessionId db'.toTables = (sessionLines sessionId closing.toTables).map
        (snapshotLine (countedVariances (sessionLines sessionId closing.toTables) variances)) := by
      rw [htables]
      exact sessionLines_snapshot
    refine ⟨?_, fun line hline i hi hbusiness hid => ?_⟩
    · rw [hlines, List.map_map]
      exact List.map_congr_left fun l _ => sameLine_snapshot.ingredient
    · rw [hlines] at hline
      obtain ⟨l, hl, rfl⟩ := List.mem_map.mp hline
      rw [sameLine_snapshot.ingredient] at hid
      have hcounted : i ∈ closing.ingredients.filter fun i => i.businessId = user.businessId ∧
          i.id ∈ (sessionLines sessionId closing.toTables).map (·.ingredientId) :=
        List.mem_filter.mpr ⟨hi, decide_eq_true ⟨hbusiness, List.mem_map.mpr ⟨l, hl, hid.symm⟩⟩⟩
      obtain ⟨stock, hstock, hrun'⟩ := computeVariances_run closing user.businessId s'
        (closing.ingredients.filter fun i => i.businessId = user.businessId ∧
          i.id ∈ (sessionLines sessionId closing.toTables).map (·.ingredientId))
      rw [hrun'] at hvariances
      obtain rfl := Except.ok.inj (Prod.mk.inj hvariances).1
      obtain ⟨i', hi', hid', hlookup⟩ := lookup_variances hcounted
      rw [hid] at hlookup
      refine ⟨stock, _, i', hid', List.mem_map_of_mem hcounted, hstock i hcounted, l, ?_⟩
      unfold snapshotLine
      rw [lookup_countedVariances (sessionLines_distinct closing) hl hlookup]
      rfl

theorem openingAtStart_yields {ids : List Uuid} {start : Option Instant} :
    (openingAtStart businessId ids start).Yields db fun stock => ∀ id ∈ ids,
      GroupBy.quantity stock id = start.elim 0 fun start =>
        stockMoved db.stockMovements businessId id none (some start) := by
  cases start with
  | none => exact yields_done fun _ _ => rfl
  | some start => exact yields_read fun id hid => quantity_stockOnHand (.inr hid)

-- A row of the live view is computed from the ledger as it stands.
structure IsLiveRow (db : Database) (businessId : Uuid) (row : LiveStockRow) : Prop where
  computed : ∃ i ∈ countable businessId db.toTables, ∃ ids onHand stock lastCount lines,
    i.id ∈ ids ∧
    (GroupBy.quantity onHand i.id = stockMoved db.stockMovements businessId i.id none none) ∧
    (GroupBy.quantity stock i.id = (since db businessId).elim 0 fun start =>
      stockMoved db.stockMovements businessId i.id none (some start)) ∧
    row = liveRow (movementTotalsByType db.stockMovements businessId (since db businessId) none ids)
      onHand stock lastCount lines i

theorem getLiveStock_yields : (getLiveStock user).Yields db fun response =>
    (∀ row ∈ response.rows, IsLiveRow db user.businessId row) ∧
      ∀ i ∈ countable user.businessId db.toTables, ∃ row ∈ response.rows, row.ingredientId = i.id := by
  refine yields_seq readOnly_requireStaffOrAbove.yields fun _ _ => ?_
  refine yields_seq readOnly_loadBusiness.yields fun business _ => ?_
  refine yields_seq readOnly_ensure.yields fun _ _ => ?_
  refine yields_seq (R := fun _ => _) (S := fun ingredients => ingredients =
    (countable user.businessId db.toTables).mergeSort fun a b => a.name ≤ b.name)
    (yields_read rfl) fun ingredients hingredients => ?_
  have hmem (i : Ingredient) : i ∈ ingredients ↔ i ∈ countable user.businessId db.toTables := by
    rw [hingredients, List.mem_mergeSort]
  refine yields_seq (S := fun lastCount => lastCount = previousSession user.businessId db.toTables)
    (yields_read rfl) ?_
  rintro lastCount rfl
  refine yields_seq (S := fun totals => totals = movementTotalsByType db.stockMovements
    user.businessId (since db user.businessId) none (ingredients.map (·.id))) (yields_read rfl) ?_
  rintro totals rfl
  refine yields_seq (S := fun onHand => ∀ id ∈ ingredients.map (·.id), GroupBy.quantity onHand id =
    stockMoved db.stockMovements user.businessId id none none)
    (yields_read fun id hid => quantity_stockOnHand (.inr hid)) fun onHand hhand => ?_
  refine yields_seq openingAtStart_yields fun stock hstock => ?_
  refine yields_seq (S := fun _ => True) (yields_read trivial) fun lines _ => yields_done ⟨?_, ?_⟩
  · rintro row hrow
    obtain ⟨i, hi, rfl⟩ := List.mem_map.mp hrow
    have hid : i.id ∈ ingredients.map (·.id) := List.mem_map_of_mem hi
    exact ⟨i, (hmem i).mp hi, _, onHand, stock, _, lines, hid, hhand i.id hid, hstock i.id hid, rfl⟩
  · intro i hi
    exact ⟨_, List.mem_map_of_mem ((hmem i).mpr hi), rfl⟩

theorem live_equation {row : LiveStockRow} (h : IsLiveRow db businessId row) :
    row.opening + row.received - row.usedBySales - row.wastage + row.adjustments =
      row.expectedMilli := by
  obtain ⟨i, -, ids, onHand, stock, lastCount, lines, hid, hhand, hstock, rfl⟩ := h.computed
  have hterms := live_terms db.stockMovements businessId (since db businessId) stock lastCount lines
    onHand hid
  have hall := @movedOf_all i.id businessId db.stockMovements (since db businessId) none
  have hwhole : GroupBy.quantity stock i.id +
      stockMoved db.stockMovements businessId i.id (since db businessId) none =
        stockMoved db.stockMovements businessId i.id none none := by
    rw [hstock]
    cases since db businessId with
    | none => exact zero_add _
    | some start => exact moved_after
  have hother := hterms.other
  have hreceived := hterms.received
  have hsales := hterms.sales
  have hwastage := hterms.wastage
  have hexpected : (liveRow (movementTotalsByType db.stockMovements businessId (since db businessId)
      none ids) onHand stock lastCount lines i).expectedMilli = GroupBy.quantity onHand i.id := rfl
  dsimp only at hother hreceived hsales hwastage
  omega

-- The two views of an ingredient differ by what is dated ahead.
theorem agrees_iff {row : LiveStockRow} {line l : StocktakeLine} {stock : List (Uuid × Int)}
    {ids : List Uuid} (h : IsLiveRow db businessId row) (hi : i.id = row.ingredientId)
    (hid : i.id ∈ ids)
    (hstock : GroupBy.quantity stock i.id = (since db businessId).elim 0 fun start =>
      stockMoved db.stockMovements businessId i.id none (some start))
    (hline : line = snapshot (countInto l (ingredientVariance stock
      (movementTotalsByType db.stockMovements businessId (since db businessId) (some db.now) ids) i))
        l) :
    Agrees row line ↔ NothingAhead db businessId row.ingredientId := by
  have hequation := live_equation h
  obtain ⟨j, -, ids', onHand, stock', lastCount, lines, hid', -, hstock', rfl⟩ := h.computed
  have hsame : j.id = i.id := hi.symm
  have hterms := live_terms db.stockMovements businessId (since db businessId) stock' lastCount lines
    onHand hid'
  have hcounted := variance_terms db.stockMovements businessId (since db businessId) (some db.now)
    stock hid
  change Agrees _ line ↔ NothingAhead db businessId j.id
  rw [hsame] at hterms hstock' ⊢
  have hreceived := @movedOf_ahead db businessId i.id (· ∈ receiptTypes)
  have hsales := @movedOf_ahead db businessId i.id (· ∈ saleTypes)
  have hwastage := @movedOf_ahead db businessId i.id (· ∈ wastageTypes)
  have hother := @movedOf_ahead db businessId i.id isOther
  obtain ⟨lr, ls, lw, lo⟩ := hterms
  obtain ⟨cr, cs, cw, co⟩ := hcounted
  generalize hrow : liveRow _ onHand stock' lastCount lines j = row at *
  subst hline
  generalize hv : ingredientVariance stock _ i = v at *
  dsimp only [varianceTerms] at *
  constructor
  · rintro ⟨-, ar, as, aw, ao⟩
    simp only [snapshot, countInto] at ar as aw ao
    exact ⟨by omega, by omega, by omega, by omega⟩
  · rintro ⟨nr, ns, nw, no⟩
    refine ⟨?_, ?_, ?_, ?_, ?_⟩ <;>
      simp only [snapshot, countInto, IngredientVariance.expectedMilli] <;> omega

theorem taken_lines (h : Taken user sessionId db db') :
    (∀ i ∈ countable user.businessId db.toTables,
      ∃ line ∈ sessionLines sessionId db'.toTables, line.ingredientId = i.id) ∧
    ∀ row, IsLiveRow db user.businessId row → ∀ line ∈ sessionLines sessionId db'.toTables,
      line.ingredientId = row.ingredientId →
        (Agrees row line ↔ NothingAhead db user.businessId row.ingredientId) := by
  obtain ⟨body, opened, completed, opening, closing, hnow, hopen, hentered, hcomplete⟩ := h.taken
  obtain ⟨hmovements, hingredients, hsession, hlines⟩ := opened_books hopen
  have hsame := sameBooks_entered hentered
  obtain ⟨hkept, hwritten⟩ := completed_line hcomplete ((congrArg (Table.lookup · sessionId)
    hsame.sessions).trans hsession)
  constructor
  · intro i hi
    have hmem := hlines i hi
    rw [← hsame.lines, ← hkept] at hmem
    exact List.mem_map.mp hmem
  · intro row hrow line hline hid
    obtain ⟨i, hi, ids, onHand, stock, lastCount, lines, -, -, -, hrow'⟩ := hrow.computed
    have hrowId : row.ingredientId = i.id := by rw [hrow']; rfl
    obtain ⟨hstored, hown⟩ := List.mem_filter.mp hi
    obtain ⟨stock', ids', i', hi', hin, hstock', l, hsnapshot⟩ := hwritten line hline i
      (by rw [hsame.ingredients, hingredients]; exact hstored) (of_decide_eq_true hown).1
      (hrowId.symm.trans hid.symm)
    have hcutoff : (newSession user sessionId body (previousSession user.businessId db.toTables)
        db.now).cutoffAt = db.now := by
      change body.cutoffAt.getD db.now = db.now
      rw [hnow]
      rfl
    rw [hsame.movements, hmovements] at hstock' hsnapshot
    rw [hcutoff] at hsnapshot
    rw [← hi'] at hin hstock'
    exact agrees_iff hrow (hi'.trans hrowId.symm) hin hstock' hsnapshot

theorem live_agrees_iff {response : LiveStockResponse}
    (hlive : (getLiveStock user).run db = (.ok response, db)) (htaken : Taken user sessionId db db') :
    (∀ i ∈ countable user.businessId db.toTables, ∃ row ∈ response.rows, row.ingredientId = i.id ∧
      ∃ line ∈ sessionLines sessionId db'.toTables, line.ingredientId = i.id) ∧
    ∀ row ∈ response.rows,
      row.opening + row.received - row.usedBySales - row.wastage + row.adjustments =
        row.expectedMilli ∧
      ∀ line ∈ sessionLines sessionId db'.toTables, line.ingredientId = row.ingredientId →
        (Agrees row line ↔ NothingAhead db user.businessId row.ingredientId) := by
  obtain ⟨hrows, hall⟩ := (getLiveStock_yields.elim hlive).2 response rfl
  obtain ⟨hlines, hagrees⟩ := taken_lines htaken
  refine ⟨fun i hi => ?_, fun row hrow => ⟨live_equation (hrows row hrow), hagrees row (hrows row hrow)⟩⟩
  obtain ⟨row, hrow, hid⟩ := hall i hi
  exact ⟨row, hrow, hid, hlines i hi⟩

end Agreement

section Fixtures

theorem run_of_isOk {α : Type} {x : Handler α} {db : Database} (h : (x.run db).1.isOk = true) :
    ∃ a, x.run db = (.ok a, (x.run db).2) := by
  cases hrun : x.run db with
  | mk r db' =>
      rw [hrun] at h
      cases r with
      | ok a => exact ⟨a, rfl⟩
      | error e => cases h

def countNow : StocktakeOpenRequest where
  reference := none
  cutoffAt := none
  notes := none
  referenceShort := countAtFifty.referenceShort

-- A kilogram is entered as dropped at an instant, by the clock's hundred.
def wasted (occurredAt : Option Instant) : Database :=
  ((RoutesWastage.recordWastage manager 6 (dropped occurredAt)).run stockroom).2

def opened (occurredAt : Option Instant) : Database :=
  ((openStocktake manager 4 countNow).run (wasted occurredAt)).2

def counted (occurredAt : Option Instant) : Database :=
  ((submitCounts manager 4 threeKilos).run (opened occurredAt)).2

def completed (occurredAt : Option Instant) : Database :=
  ((completeStocktake manager 4).run (counted occurredAt)).2

theorem wasted_taken {occurredAt : Option Instant}
    (hopened : ((openStocktake manager 4 countNow).run (wasted occurredAt)).1.isOk = true)
    (hcounted : ((submitCounts manager 4 threeKilos).run (opened occurredAt)).1.isOk = true)
    (hcompleted : ((completeStocktake manager 4).run (counted occurredAt)).1.isOk = true) :
    Taken manager 4 (wasted occurredAt) (completed occurredAt) := by
  obtain ⟨opening, hopening⟩ := run_of_isOk hopened
  obtain ⟨counting, hcounting⟩ := run_of_isOk hcounted
  obtain ⟨closing, hclosing⟩ := run_of_isOk hcompleted
  exact ⟨countNow, opening, closing, _, _, rfl, hopening, .more .none hcounting, hclosing⟩

theorem wasted_live {occurredAt : Option Instant}
    (h : ((getLiveStock manager).run (wasted occurredAt)).1.isOk = true) :
    ∃ response, (getLiveStock manager).run (wasted occurredAt) =
      (.ok response, wasted occurredAt) := by
  obtain ⟨response, hrun⟩ := run_of_isOk h
  have hkept := (getLiveStock_yields.elim hrun).1
  rw [hkept] at hrun
  exact ⟨response, hrun⟩

theorem wasted_flour {occurredAt : Option Instant}
    (h : (countable 1 (wasted occurredAt).toTables).map (·.id) = [2]) :
    ∃ i ∈ countable 1 (wasted occurredAt).toTables, i.id = 2 := by
  have hmem : 2 ∈ (countable 1 (wasted occurredAt).toTables).map (·.id) :=
    h ▸ List.mem_singleton.mpr rfl
  exact List.mem_map.mp hmem

theorem wasted_earlier_agrees : ∃ response db',
    (getLiveStock manager).run (wasted (some 50)) = (.ok response, wasted (some 50)) ∧
    Taken manager 4 (wasted (some 50)) db' ∧
    ∃ row ∈ response.rows, ∃ line ∈ sessionLines 4 db'.toTables, Agrees row line := by
  obtain ⟨response, hlive⟩ := @wasted_live (some 50) (by decide +kernel)
  have htaken := @wasted_taken (some 50) (by decide +kernel) (by decide +kernel) (by decide +kernel)
  have hagree := live_agrees_iff hlive htaken
  obtain ⟨i, hi, hflour⟩ := @wasted_flour (some 50) (by decide +kernel)
  have hnothing : NothingAhead (wasted (some 50)) 1 2 :=
    ⟨by decide +kernel, by decide +kernel, by decide +kernel, by decide +kernel⟩
  rw [← hflour] at hnothing
  obtain ⟨row, hrow, hid, line, hline, hlineId⟩ := hagree.1 i hi
  refine ⟨response, _, hlive, htaken, row, hrow, line, hline, ?_⟩
  exact ((hagree.2 row hrow).2 line hline (hlineId.trans hid.symm)).mpr (hid ▸ hnothing)

theorem wasted_ahead_disagrees :
    ¬ ∀ (user : AuthUser) (sessionId : Uuid) (db db' : Database) (response : LiveStockResponse),
      (getLiveStock user).run db = (.ok response, db) → Taken user sessionId db db' →
      ∀ row ∈ response.rows, ∀ line ∈ sessionLines sessionId db'.toTables,
        line.ingredientId = row.ingredientId → Agrees row line := by
  intro h
  obtain ⟨response, hlive⟩ := @wasted_live (some 200) (by decide +kernel)
  have htaken := @wasted_taken (some 200) (by decide +kernel) (by decide +kernel) (by decide +kernel)
  obtain ⟨hrows, hall⟩ := (getLiveStock_yields.elim hlive).2 response rfl
  obtain ⟨hlines, hagrees⟩ := taken_lines htaken
  obtain ⟨i, hi, hflour⟩ := @wasted_flour (some 200) (by decide +kernel)
  obtain ⟨row, hrow, hid⟩ := hall i hi
  obtain ⟨line, hline, hlineId⟩ := hlines i hi
  have hsame : line.ingredientId = row.ingredientId := hlineId.trans hid.symm
  have hnothing := (hagrees row (hrows row hrow) line hline hsame).mp
    (h manager 4 _ _ response hlive htaken row hrow line hline hsame)
  rw [hid, hflour] at hnothing
  exact absurd hnothing.wastage (by decide +kernel)

end Fixtures

end NextgenBackend.LiveStock
