import NextgenBackend.Core.Rbac
import NextgenBackend.Inventory.Ledger
import NextgenBackend.Inventory.Units
import NextgenBackend.Utils.Time

namespace NextgenBackend.RoutesStocktake

open Txn Inventory

def receiptTypes : List StockMovementType :=
  [.goodsReceived]

def consumptionTypes : List StockMovementType :=
  [.saleConsumption, .remakeConsumption, .saleReversal]

def wastageTypes : List StockMovementType :=
  [.wastage, .staffMeal, .complimentary]

def requireInventoryEnabled (businessId : Uuid) : Handler Business := do
  let business ← loadBusiness businessId
  ensure business.inventoryEnabled
    ⟨"INVENTORY_NOT_ENABLED", "The inventory module is not enabled for this business", 409, []⟩
  pure business

def sessionLines (sessionId : Uuid) (t : Tables) : List StocktakeLine :=
  t.stocktakeLines.filter fun l => l.stocktakeSessionId = sessionId

def ownSession (businessId sessionId : Uuid) (db : Database) : Option StocktakeSession :=
  (db.stocktakeSessions.lookup sessionId).filter fun s => s.businessId = businessId

def loadSession (businessId sessionId : Uuid) :
    Handler (StocktakeSession × List StocktakeLine) := do
  let row ← .read (ownSession businessId sessionId)
  let session ← found (notFoundError "Stocktake" (some sessionId)) row
  let lines ← .read fun db => sessionLines sessionId db.toTables
  pure (session, lines)

def loadSessionForUpdate (businessId sessionId : Uuid) :
    Handler (StocktakeSession × List StocktakeLine) := do
  let row ← .lock (.stocktakeSession sessionId) (ownSession businessId sessionId)
  let session ← found (notFoundError "Stocktake" (some sessionId)) row
  let lines ← .read fun db => sessionLines sessionId db.toTables
  pure (session, lines)

def rejectIfLocked (session : StocktakeSession) : Handler Unit := do
  ensure (session.status ≠ .approved)
    ⟨"STOCKTAKE_LOCKED", "This stocktake was approved and can no longer be changed", 409, []⟩
  ensure (session.status ≠ .cancelled)
    ⟨"STOCKTAKE_CANCELLED", "This stocktake was cancelled", 409, []⟩

structure StocktakeOpenRequest where
  reference : Option String
  cutoffAt : Option Instant
  notes : Option String
  referenceShort : ∀ text ∈ reference, text.length ≤ 64

structure CountLineRequest where
  ingredientId : Uuid
  quantity : String
  unit : String
  notes : Option String
  unitGiven : 1 ≤ unit.length ∧ unit.length ≤ 32

structure CountSubmitRequest where
  lines : List CountLineRequest
  linesNonempty : lines ≠ []

def addMovementTotal (v : IngredientVariance) (movementType : StockMovementType)
    (quantity : Int) : IngredientVariance :=
  if movementType ∈ receiptTypes then { v with receivedMilli := v.receivedMilli + quantity }
  else if movementType ∈ consumptionTypes then
    { v with theoreticalConsumptionMilli := v.theoreticalConsumptionMilli + -quantity }
  else if movementType ∈ wastageTypes then { v with wastageMilli := v.wastageMilli + -quantity }
  else { v with adjustmentMilli := v.adjustmentMilli + quantity }

def ingredientVariance (opening : List (Uuid × Int))
    (totals : List ((Uuid × StockMovementType) × Int)) (ingredient : Ingredient) :
    IngredientVariance :=
  totals.foldl (fun v entry =>
      if entry.1.1 = ingredient.id then addMovementTotal v entry.1.2 entry.2 else v)
    { openingMilli := GroupBy.quantity opening ingredient.id
      unitCostMicroCents := ingredient.costPerCanonicalMicroCents }

def openingStock (businessId : Uuid) (session : StocktakeSession) (ingredientIds : List Uuid) :
    Handler (List (Uuid × Int)) :=
  match session.periodStartAt with
  | some start => .read fun db => stockOnHand db.stockMovements businessId (some start) ingredientIds
  | none => pure []

def computeVariances (businessId : Uuid) (session : StocktakeSession)
    (ingredients : List Ingredient) : Handler (List (Uuid × IngredientVariance)) := do
  let ingredientIds := ingredients.map (·.id)
  let opening ← openingStock businessId session ingredientIds
  let totals ← .read fun db => movementTotalsByType db.stockMovements businessId
    session.periodStartAt (some session.cutoffAt) ingredientIds
  pure (ingredients.map fun i => (i.id, ingredientVariance opening totals i))

def loadIngredients (businessId : Uuid) (ingredientIds : List Uuid) : Handler (List Ingredient) :=
  .read fun db => db.ingredients.filter fun i => i.businessId = businessId ∧ i.id ∈ ingredientIds

def snapshotVariance (line : StocktakeLine) : IngredientVariance where
  openingMilli := line.openingQuantityMilli
  receivedMilli := line.receivedQuantityMilli
  theoreticalConsumptionMilli := line.theoreticalConsumptionMilli
  wastageMilli := line.wastageQuantityMilli
  adjustmentMilli := line.adjustmentQuantityMilli
  countedMilli := line.countedQuantityMilli.getD 0
  unitCostMicroCents := line.unitCostMicroCents

def countInto (line : StocktakeLine) (v : IngredientVariance) : IngredientVariance :=
  { v with countedMilli := line.countedQuantityMilli.getD 0 }

structure StocktakeResponse where
  session : StocktakeSession
  lines : List (StocktakeLine × IngredientVariance)
deriving DecidableEq, Repr

def buildResponse (businessId sessionId : Uuid) : Handler StocktakeResponse := do
  let (session, lines) ← loadSession businessId sessionId
  let ingredients ← loadIngredients businessId (lines.map (·.ingredientId))
  if session.status = .approved then
    pure ⟨session, lines.map fun l => (l, snapshotVariance l)⟩
  else do
    let variances ← computeVariances businessId session ingredients
    pure ⟨session, lines.filterMap fun l =>
      (variances.lookup l.ingredientId).map fun v => (l, countInto l v)⟩

def withStatus (businessId : Uuid) (status : StocktakeStatus) (t : Tables) :
    List StocktakeSession :=
  t.stocktakeSessions.filter fun s => s.businessId = businessId ∧ s.status = status

def previousSession (businessId : Uuid) (t : Tables) : Option StocktakeSession :=
  ((withStatus businessId .approved t).mergeSort fun a b => b.cutoffAt ≤ a.cutoffAt).head?

def newSession (user : AuthUser) (sessionId : Uuid) (body : StocktakeOpenRequest)
    (previous : Option StocktakeSession) (now : Instant) : StocktakeSession where
  id := sessionId
  businessId := user.businessId
  reference := some ((body.reference.filter (· ≠ "")).getD ("Count " ++ Time.minuteText now))
  cutoffAt := body.cutoffAt.getD now
  periodStartAt := previous.map (·.cutoffAt)
  openedByUserId := some user.userId
  openedAt := now
  notes := body.notes

def newLine (businessId sessionId : Uuid) (ingredient : Ingredient) : StocktakeLine where
  businessId := businessId
  stocktakeSessionId := sessionId
  ingredientId := ingredient.id
  countMethodSnapshot := some ingredient.countMethod
  unitCostMicroCents := ingredient.costPerCanonicalMicroCents

def insertSession (session : StocktakeSession) (lines : List StocktakeLine) : Pending := fun t =>
  { t with
    stocktakeSessions := t.stocktakeSessions.insert session
    stocktakeLines := t.stocktakeLines ++ lines }

def openStocktake (user : AuthUser) (sessionId : Uuid) (body : StocktakeOpenRequest) :
    Handler StocktakeResponse := do
  requireStaffOrAbove user
  let _ ← requireInventoryEnabled user.businessId
  let openAlready ← scalar fun db => withStatus user.businessId .draft db.toTables
  ensure openAlready.isNone ⟨"STOCKTAKE_ALREADY_OPEN",
    "A stocktake is already in progress — complete or cancel it first", 409, []⟩
  let completedUnapproved ← scalar fun db => withStatus user.businessId .completed db.toTables
  ensure completedUnapproved.isNone ⟨"STOCKTAKE_PENDING_APPROVAL",
    "A completed stocktake is awaiting manager approval — approve or cancel it before starting a new count",
    409, []⟩
  let previous ← .read fun db => previousSession user.businessId db.toTables
  let now ← readNow
  let ingredients ← .read fun db => db.ingredients.filter fun i =>
    i.businessId = user.businessId ∧ i.isActive ∧ ¬ i.isDeleted
  ensure (ingredients ≠ []) ⟨"NO_INGREDIENTS",
    "Add at least one ingredient before starting a stocktake", 422, []⟩
  commit (.openStocktake sessionId) (Session.stage {} []
    (insertSession (newSession user sessionId body previous now)
      (ingredients.map (newLine user.businessId sessionId))))
  buildResponse user.businessId sessionId

def setLines (sessionId : Uuid) (set : StocktakeLine → StocktakeLine) : Pending := fun t =>
  { t with stocktakeLines := t.stocktakeLines.map fun l =>
      if l.stocktakeSessionId = sessionId then set l else l }

def setSession (sessionId : Uuid) (set : StocktakeSession → StocktakeSession) : Pending := fun t =>
  { t with stocktakeSessions := t.stocktakeSessions.modify sessionId set }

def recordCount (entry : CountLineRequest) (counted : Int) (line : StocktakeLine) :
    StocktakeLine :=
  if line.ingredientId = entry.ingredientId then
    { line with
      countedQuantityMilli := some counted
      enteredQuantity := some entry.quantity
      enteredUnit := some entry.unit
      notes := if entry.notes.isSome then entry.notes else line.notes }
  else line

def countedMilli (ingredient : Ingredient) (entry : CountLineRequest) : Except Failure Int := do
  let counted ← translated ConversionError.isValueError
    (fun e => ⟨"INVALID_UNIT", ingredient.name ++ ": " ++ e, 422, []⟩)
    (toMilli (.typed entry.quantity) entry.unit ingredient.canonicalUnit)
  if counted < 0 then
    .error (.app ⟨"INVALID_QUANTITY", ingredient.name ++ ": a count cannot be negative", 422, []⟩)
  else .ok counted

def countLine (sessionId : Uuid) (lines : List StocktakeLine) (ingredients : List Ingredient)
    (entry : CountLineRequest) (session : Session) : Except Failure Session :=
  match lines.find? (fun l => l.ingredientId = entry.ingredientId),
      ingredients.find? (fun i => i.id = entry.ingredientId) with
  | some _, some ingredient => do
      let counted ← countedMilli ingredient entry
      .ok (session.stage [] (setLines sessionId (recordCount entry counted)))
  | _, _ => .error (.app ⟨"INGREDIENT_NOT_ON_COUNT",
      s!"Ingredient {entry.ingredientId} is not part of this stocktake", 422, []⟩)

def countLines (sessionId : Uuid) (lines : List StocktakeLine) (ingredients : List Ingredient) :
    List CountLineRequest → Session → Handler Session
  | [], session => pure session
  | entry :: entries, session => do
      let session ← liftExcept (countLine sessionId lines ingredients entry session)
      countLines sessionId lines ingredients entries session

def submitCounts (user : AuthUser) (sessionId : Uuid) (body : CountSubmitRequest) :
    Handler StocktakeResponse := do
  requireStaffOrAbove user
  let _ ← requireInventoryEnabled user.businessId
  let (session, lines) ← loadSession user.businessId sessionId
  rejectIfLocked session
  ensure (session.status ≠ .completed) ⟨"STOCKTAKE_COMPLETED",
    "This stocktake has already been completed and its variance snapshotted — counts can no longer be edited. Cancel it and open a new count if the figures were wrong.",
    409, []⟩
  let ingredients ← loadIngredients user.businessId (body.lines.map (·.ingredientId))
  let pending ← countLines sessionId lines ingredients body.lines {}
  commit (.submitCounts sessionId) pending
  buildResponse user.businessId sessionId

def snapshot (v : IngredientVariance) (line : StocktakeLine) : StocktakeLine :=
  { line with
    openingQuantityMilli := v.openingMilli
    receivedQuantityMilli := v.receivedMilli
    theoreticalConsumptionMilli := v.theoreticalConsumptionMilli
    wastageQuantityMilli := v.wastageMilli
    adjustmentQuantityMilli := v.adjustmentMilli
    expectedQuantityMilli := v.expectedMilli
    varianceQuantityMilli := v.varianceMilli
    varianceValueCents := v.varianceValueCents
    varianceBasisPoints := v.varianceBasisPoints
    unitCostMicroCents := v.unitCostMicroCents }

def snapshotLine (variances : List (Uuid × IngredientVariance)) (line : StocktakeLine) :
    StocktakeLine :=
  (variances.lookup line.ingredientId).elim line fun v => snapshot v line

def countedVariances (lines : List StocktakeLine) (variances : List (Uuid × IngredientVariance)) :
    List (Uuid × IngredientVariance) :=
  lines.filterMap fun l =>
    (variances.lookup l.ingredientId).map fun v => (l.ingredientId, countInto l v)

def markCompleted (userId : Uuid) (counted : List (Uuid × IngredientVariance)) (now : Instant)
    (s : StocktakeSession) : StocktakeSession :=
  { s with
    status := .completed
    completedByUserId := some userId
    completedAt := some now
    totalVarianceValueCents := (counted.map fun v => v.2.varianceValueCents).sum
    totalTheoreticalValueCents := (counted.map fun v => v.2.theoreticalValueCents).sum }

def completeStocktake (user : AuthUser) (sessionId : Uuid) : Handler StocktakeResponse := do
  requireStaffOrAbove user
  let _ ← requireInventoryEnabled user.businessId
  let (session, lines) ← loadSession user.businessId sessionId
  rejectIfLocked session
  ensure (session.status = .draft)
    ⟨"STOCKTAKE_NOT_DRAFT", "Only a draft stocktake can be completed", 409, []⟩
  let uncounted := lines.filter fun l => l.countedQuantityMilli = none
  ensure (uncounted = []) ⟨"INCOMPLETE_COUNT",
    s!"{uncounted.length} ingredient(s) still have no counted quantity", 422,
    uncounted.map fun l => ("uncounted_ingredient_ids", s!"{l.ingredientId}")⟩
  let ingredients ← loadIngredients user.businessId (lines.map (·.ingredientId))
  let variances ← computeVariances user.businessId session ingredients
  let counted := countedVariances lines variances
  let now ← readNow
  let pending := Session.stage {} [] (setLines sessionId (snapshotLine counted))
  commit (.completeStocktake sessionId) (pending.stage [.stocktakeSession sessionId]
    (setSession sessionId (markCompleted user.userId counted now)))
  buildResponse user.businessId sessionId

def adjustment (user : AuthUser) (session : StocktakeSession) (line : StocktakeLine) :
    StockMovement :=
  buildMovement user.businessId line.ingredientId line.varianceQuantityMilli .stocktakeAdjustment
    line.unitCostMicroCents (some .stocktake) (some session.id) (some user.userId)
    (some (.stocktakeAdjustment session.id line.ingredientId))
    (some ("Stocktake " ++ session.reference.getD "None" ++ " correction")) session.cutoffAt

def adjustments (user : AuthUser) (session : StocktakeSession) (lines : List StocktakeLine) :
    List StockMovement :=
  (lines.filter fun l => l.varianceQuantityMilli ≠ 0).map (adjustment user session)

def markApproved (userId : Uuid) (now : Instant) (s : StocktakeSession) : StocktakeSession :=
  { s with status := .approved, approvedByUserId := some userId, approvedAt := some now }

def approveStocktake (user : AuthUser) (sessionId : Uuid) (postAdjustments : Bool) :
    Handler StocktakeResponse := do
  requireOwnerOrManager user
  let _ ← requireInventoryEnabled user.businessId
  let (session, lines) ← loadSessionForUpdate user.businessId sessionId
  ensure (session.status ≠ .approved)
    ⟨"STOCKTAKE_LOCKED", "This stocktake is already approved", 409, []⟩
  ensure (session.status = .completed)
    ⟨"STOCKTAKE_NOT_COMPLETED", "Complete the count before approving it", 409, []⟩
  let now ← readNow
  let posted := if postAdjustments then adjustments user session lines else []
  let pending := Session.stage {} [] (appendMovements posted)
  commit (.approveStocktake sessionId) (pending.stage [.stocktakeSession sessionId]
    (setSession sessionId (markApproved user.userId now)))
  buildResponse user.businessId sessionId

def markCancelled (s : StocktakeSession) : StocktakeSession :=
  { s with status := .cancelled }

def cancelStocktake (user : AuthUser) (sessionId : Uuid) : Handler StocktakeResponse := do
  requireOwnerOrManager user
  let _ ← requireInventoryEnabled user.businessId
  let (session, _) ← loadSession user.businessId sessionId
  rejectIfLocked session
  commit (.cancelStocktake sessionId) (Session.stage {} [.stocktakeSession sessionId]
    (setSession sessionId markCancelled))
  buildResponse user.businessId sessionId

end NextgenBackend.RoutesStocktake
