import NextgenBackend.Api.RoutesStocktake

namespace NextgenBackend.RoutesInventory

open Txn Inventory

open RoutesStocktake (requireInventoryEnabled)

@[irreducible]
def converted (quantity : Quantity) (unit : String) (canonical : CanonicalUnit) :
    Except Failure Int :=
  translated ConversionError.isValueError (fun e => ⟨"INVALID_UNIT", e, 422, []⟩)
    (toMilli quantity unit canonical)

def convert (quantity : Quantity) (unit : String) (canonical : CanonicalUnit) : Handler Int :=
  liftExcept (converted quantity unit canonical)

def loadIngredient (businessId ingredientId : Uuid) : Handler Ingredient := do
  let row ← .read fun db => (db.ingredients.lookup ingredientId).filter fun i =>
    i.businessId = businessId ∧ ¬ i.isDeleted
  found (notFoundError "Ingredient" (some ingredientId)) row

structure GoodsReceiptLineRequest where
  ingredientId : Uuid
  quantity : String
  unit : String
  unitCostCents : Option Cents
  unitShort : unit.length ≤ 32
  costNonnegative : ∀ cost ∈ unitCostCents, 0 ≤ cost

structure GoodsReceiptCreateRequest where
  lines : List GoodsReceiptLineRequest
  supplierId : Option Uuid
  reference : Option String
  notes : Option String
  occurredAt : Option Instant
  idempotencyKey : Option String
  linesNonempty : lines ≠ []
  referenceShort : ∀ text ∈ reference, text.length ≤ 128
  keyShort : ∀ text ∈ idempotencyKey, text.length ≤ 128

structure GoodsReceiptResponse where
  id : Uuid
  lines : Nat
  totalCostCents : Cents
deriving DecidableEq, Repr

def existingGoodsReceipt (businessId : Uuid) (idempotencyKey : Option String) (t : Tables) :
    Option GoodsReceiptResponse :=
  match idempotencyKey.filter (· ≠ "") with
  | none => none
  | some raw =>
      (t.goodsReceipts.find? fun g => g.businessId = businessId ∧ g.idempotencyKey = some raw).map
        fun g => ⟨g.id, (t.goodsReceiptLines.filter fun l => l.goodsReceiptId = g.id).length,
          g.totalCostCents⟩

def requireSupplier (businessId : Uuid) : Option Uuid → Handler Unit
  | none => pure ()
  | some supplierId => do
      let row ← .read fun db =>
        (db.suppliers.lookup supplierId).filter fun s => s.businessId = businessId
      let _ ← found (notFoundError "Supplier" (some supplierId)) row
      pure ()

def lineMilli (ingredient : Ingredient) (line : GoodsReceiptLineRequest) : Except Failure Int :=
  if unitKey line.unit = "PACK" then
    translated ConversionError.isUnitError (fun e => ⟨"INVALID_QUANTITY", e, 422, []⟩)
      (packToMilli (.typed line.quantity) ingredient.purchasePackMilli)
  else converted (.typed line.quantity) line.unit ingredient.canonicalUnit

def receivedMilli (ingredient : Ingredient) (line : GoodsReceiptLineRequest) :
    Except Failure Int := do
  let quantityMilli ← lineMilli ingredient line
  if quantityMilli ≤ 0 then
    .error (.app ⟨"INVALID_QUANTITY", "Received quantity must be greater than zero", 422, []⟩)
  else .ok quantityMilli

structure LineCost where
  lineCostCents : Cents
  unitCostMicroCents : Int
deriving DecidableEq, Repr

def statedCost (unitCost : Cents) (quantity : String) : Except Failure Cents :=
  uncaught do
    let quantity ← asDecimal (.typed quantity)
    wholeUnits (Decimal.Number.mul Decimal.defaultContext (.finite unitCost) quantity)

def lineCost (ingredient : Ingredient) (line : GoodsReceiptLineRequest) (quantityMilli : Int) :
    Except Failure LineCost :=
  match line.unitCostCents with
  | some unitCost => do
      let cost ← statedCost unitCost line.quantity
      .ok ⟨cost, costPerCanonicalMicroCents cost quantityMilli⟩
  | none =>
      .ok ⟨valueCents quantityMilli ingredient.costPerCanonicalMicroCents,
        ingredient.costPerCanonicalMicroCents⟩

structure ReceivedLine where
  line : GoodsReceiptLine
  movement : StockMovement

def receivedLine (user : AuthUser) (receiptId : Uuid) (occurred : Instant) (ingredient : Ingredient)
    (line : GoodsReceiptLineRequest) (quantityMilli : Int) (cost : LineCost) : ReceivedLine :=
  { line :=
      { businessId := user.businessId
        goodsReceiptId := receiptId
        ingredientId := ingredient.id
        enteredQuantity := line.quantity
        enteredUnit := line.unit
        quantityMilli := quantityMilli
        unitCostCents := line.unitCostCents
        lineCostCents := cost.lineCostCents }
    movement :=
      buildMovement user.businessId ingredient.id quantityMilli .goodsReceived
        cost.unitCostMicroCents (some .goodsReceipt) (some receiptId) (some user.userId) none none
        occurred }

def receivedLines (user : AuthUser) (receiptId : Uuid) (occurred : Instant)
    (ingredients : List Ingredient) :
    List GoodsReceiptLineRequest → Except Failure (List ReceivedLine)
  | [] => .ok []
  | line :: lines =>
      match ingredients.find? (fun i => i.id = line.ingredientId) with
      | none => receivedLines user receiptId occurred ingredients lines
      | some ingredient => do
          let quantityMilli ← receivedMilli ingredient line
          let cost ← lineCost ingredient line quantityMilli
          let rest ← receivedLines user receiptId occurred ingredients lines
          .ok (receivedLine user receiptId occurred ingredient line quantityMilli cost :: rest)

def newReceipt (user : AuthUser) (receiptId : Uuid) (body : GoodsReceiptCreateRequest)
    (occurred : Instant) (received : List ReceivedLine) : GoodsReceipt where
  id := receiptId
  businessId := user.businessId
  supplierId := body.supplierId
  reference := body.reference
  receivedByUserId := some user.userId
  totalCostCents := (received.map fun r => r.line.lineCostCents).sum
  notes := body.notes
  idempotencyKey := body.idempotencyKey
  occurredAt := occurred

def insertReceipt (receipt : GoodsReceipt) (lines : List GoodsReceiptLine) : Pending := fun t =>
  { t with
    goodsReceipts := t.goodsReceipts.insert receipt
    goodsReceiptLines := t.goodsReceiptLines ++ lines }

def fitsInteger (n : Int) : Prop :=
  -2147483648 ≤ n ∧ n ≤ 2147483647

def fitsBigInteger (n : Int) : Prop :=
  -9223372036854775808 ≤ n ∧ n ≤ 9223372036854775807

-- Rows that their columns have room for: the flush raises on any other.
def ReceivedLine.fits (r : ReceivedLine) : Prop :=
  r.line.enteredQuantity.length ≤ 32 ∧ fitsBigInteger r.line.quantityMilli ∧
    (∀ cost ∈ r.line.unitCostCents, fitsInteger cost) ∧ fitsInteger r.line.lineCostCents ∧
    fitsBigInteger r.movement.unitCostMicroCents ∧ fitsInteger r.movement.valueCents

instance (n : Int) : Decidable (fitsInteger n) := inferInstanceAs (Decidable (_ ∧ _))

instance (n : Int) : Decidable (fitsBigInteger n) := inferInstanceAs (Decidable (_ ∧ _))

instance (r : ReceivedLine) : Decidable r.fits := inferInstanceAs (Decidable (_ ∧ _))

def requireFits (receipt : GoodsReceipt) (received : List ReceivedLine) : Handler Unit :=
  .require ((∀ r ∈ received, r.fits) ∧ fitsInteger receipt.totalCostCents) .unhandled

def replayGoodsReceipt (businessId : Uuid) (body : GoodsReceiptCreateRequest) (fault : Failure) :
    Handler GoodsReceiptResponse :=
  if fault = .integrity .uqGoodsReceiptsBusinessIdempotencyKey then do
    let existing ← .read fun db =>
      existingGoodsReceipt businessId body.idempotencyKey db.toTables
    .orFail fault existing
  else .fail fault

def receiveGoods (user : AuthUser) (receiptId : Uuid) (body : GoodsReceiptCreateRequest) :
    Handler GoodsReceiptResponse := do
  let ingredients ← .read fun db => db.ingredients.filter fun i =>
    i.businessId = user.businessId ∧ i.id ∈ body.lines.map (·.ingredientId) ∧ ¬ i.isDeleted
  let missing := (body.lines.map (·.ingredientId)).filter fun id => ∀ i ∈ ingredients, i.id ≠ id
  ensure (missing = []) ⟨"UNKNOWN_INGREDIENT",
    "Unknown ingredient(s): " ++ ", ".intercalate (missing.map fun id => s!"{id}"), 422, []⟩
  requireSupplier user.businessId body.supplierId
  let now ← readNow
  let occurred := body.occurredAt.getD now
  let received ← liftExcept (receivedLines user receiptId occurred ingredients body.lines)
  let receipt := newReceipt user receiptId body occurred received
  requireFits receipt received
  let pending := Session.stage {} [] (insertReceipt receipt (received.map (·.line)))
  let pending := pending.stage [] (appendMovements (received.map (·.movement)))
  let fault ← .tryCommit (.createGoodsReceipt receiptId) pending.touched
    (Database.write pending.pending)
  match fault with
  | some fault => replayGoodsReceipt user.businessId body fault
  | none => pure ⟨receiptId, body.lines.length, receipt.totalCostCents⟩

def createGoodsReceipt (user : AuthUser) (receiptId : Uuid) (body : GoodsReceiptCreateRequest) :
    Handler GoodsReceiptResponse := do
  requireStaffOrAbove user
  let _ ← requireInventoryEnabled user.businessId
  let replayed ← .read fun db =>
    existingGoodsReceipt user.businessId body.idempotencyKey db.toTables
  match replayed with
  | some response => pure response
  | none => receiveGoods user receiptId body

structure OpeningStockRequest where
  ingredientId : Uuid
  quantity : String
  unit : String
  source : Option String
  occurredAt : Option Instant
  unitShort : unit.length ≤ 32
  sourceShort : ∀ text ∈ source, text.length ≤ 255

def openingStockAlreadySet (suffix : String) : AppError where
  code := "OPENING_STOCK_ALREADY_SET"
  message := "Opening stock has already been recorded for this ingredient" ++ suffix
  statusCode := 409

def openingMovement (user : AuthUser) (body : OpeningStockRequest) (ingredient : Ingredient)
    (quantityMilli : Int) (occurred : Instant) : StockMovement :=
  buildMovement user.businessId ingredient.id quantityMilli .openingBalance
    ingredient.costPerCanonicalMicroCents (some .openingStock) (some ingredient.id)
    (some user.userId) (some (.openingBalance ingredient.id))
    (some ((body.source.filter (· ≠ "")).getD "Opening stock")) occurred

def setOpeningStock (user : AuthUser) (body : OpeningStockRequest) : Handler StockMovement := do
  requireOwnerOrManager user
  let _ ← requireInventoryEnabled user.businessId
  let ingredient ← loadIngredient user.businessId body.ingredientId
  let quantityMilli ← convert (.typed body.quantity) body.unit ingredient.canonicalUnit
  ensure (0 < quantityMilli)
    ⟨"INVALID_QUANTITY", "Opening stock must be greater than zero", 422, []⟩
  let already ← .read fun db => db.stockMovements.any fun m =>
    m.businessId = user.businessId ∧ m.ingredientId = ingredient.id ∧
      m.movementType = .openingBalance
  ensure (¬ already) (openingStockAlreadySet
    ". Use a manual adjustment to correct it, or a goods receipt for stock received since.")
  let now ← readNow
  let movement := openingMovement user body ingredient quantityMilli (body.occurredAt.getD now)
  let fault ← .tryCommit (.setOpeningStock ingredient.id) []
    (Database.write (appendMovements [movement]))
  match fault with
  | none => pure movement
  | some (.integrity .uqStockMovementsBusinessIdIdempotencyKey) =>
      raise (openingStockAlreadySet " (concurrent submission detected).")
  | some fault => .fail fault

structure AdjustmentRequest where
  ingredientId : Uuid
  quantity : String
  unit : String
  reason : String
  unitShort : unit.length ≤ 32
  reasonGiven : 3 ≤ reason.length ∧ reason.length ≤ 255

def createAdjustment (user : AuthUser) (body : AdjustmentRequest) : Handler StockMovement := do
  requireOwnerOrManager user
  let _ ← requireInventoryEnabled user.businessId
  let ingredient ← loadIngredient user.businessId body.ingredientId
  let magnitude ← found
    ⟨"INVALID_QUANTITY", "'" ++ body.quantity ++ "' is not a number", 422, []⟩
    (Decimal.parse (Text.strip body.quantity.toList))
  let isZero ← liftExcept (uncaught magnitude.isZero)
  ensure (isZero = false) ⟨"INVALID_QUANTITY", "Adjustment cannot be zero", 422, []⟩
  let size ← liftExcept (uncaught (magnitude.abs Decimal.defaultContext))
  let quantityMilli ← convert (.number size) body.unit ingredient.canonicalUnit
  let isNegative ← liftExcept (uncaught magnitude.isNegative)
  let now ← readNow
  let movement := buildMovement user.businessId ingredient.id
    (if isNegative then -quantityMilli else quantityMilli) .manualAdjustment
    ingredient.costPerCanonicalMicroCents (some .manual) none (some user.userId) none
    (some body.reason) now
  commit (.createAdjustment ingredient.id) (Session.stage {} [] (appendMovements [movement]))
  pure movement

section Frames

variable {sites : CommitSite → Prop} {N : Pending → Prop} {user : AuthUser}

@[simp]
theorem readOnly_requireInventoryEnabled {businessId : Uuid} :
    (requireInventoryEnabled businessId).ReadOnly fun _ => True :=
  readOnly_seq readOnly_loadBusiness fun _ => readOnly_seq readOnly_ensure fun _ => trivial

@[simp]
theorem readOnly_loadIngredient {businessId ingredientId : Uuid} :
    (loadIngredient businessId ingredientId).ReadOnly fun _ => True :=
  readOnly_seq readOnly_read fun _ => readOnly_found

@[simp]
theorem readOnly_convert {quantity : Quantity} {unit : String} {canonical : CanonicalUnit} :
    (convert quantity unit canonical).ReadOnly fun _ => True :=
  readOnly_liftExcept

@[simp]
theorem readOnly_requireSupplier {businessId : Uuid} {supplierId : Option Uuid} :
    (requireSupplier businessId supplierId).ReadOnly fun _ => True := by
  cases supplierId with
  | none => trivial
  | some id =>
      exact readOnly_seq readOnly_read fun _ => readOnly_seq readOnly_found fun _ => trivial

theorem requireFits_ok {receipt : GoodsReceipt} {received : List ReceivedLine} :
    (requireFits receipt received).ReadOnly fun _ =>
      (∀ r ∈ received, r.fits) ∧ fitsInteger receipt.totalCostCents :=
  conforms_require id

@[simp]
theorem readOnly_requireFits {receipt : GoodsReceipt} {received : List ReceivedLine} :
    (requireFits receipt received).ReadOnly fun _ => True :=
  Conforms.mono requireFits_ok (fun _ _ _ => id) fun _ _ => trivial

theorem createGoodsReceipt_writes {receiptId : Uuid} {body : GoodsReceiptCreateRequest}
    (hN : Neutral N) (hsite : sites (.createGoodsReceipt receiptId))
    (hreceipt : ∀ receipt lines, N (insertReceipt receipt lines))
    (hmovements : ∀ movements, N (appendMovements movements)) :
    Writes sites N (createGoodsReceipt user receiptId body) := by
  refine writes_seq readOnly_requireStaffOrAbove fun _ => ?_
  refine writes_seq readOnly_requireInventoryEnabled fun _ => ?_
  refine writes_seq readOnly_read fun replayed => ?_
  cases replayed with
  | some response => exact writes_done _
  | none =>
      refine writes_seq readOnly_read fun ingredients => ?_
      refine writes_seq readOnly_ensure fun _ => ?_
      refine writes_seq readOnly_requireSupplier fun _ => ?_
      refine writes_seq readOnly_readNow fun now => ?_
      refine writes_seq readOnly_liftExcept fun received => ?_
      refine writes_seq readOnly_requireFits fun _ => ?_
      have hreceived : Session.Extends N {} (Session.stage {} [] (insertReceipt
          (newReceipt user receiptId body (body.occurredAt.getD now) received)
          (received.map (·.line)))) := Session.extends_stage (hreceipt _ _)
      refine writes_bind (writes_tryCommit hsite
        (hN.trans hreceived (Session.extends_stage (hmovements _))).pending) fun fault => ?_
      cases fault with
      | none => exact writes_done _
      | some fault =>
          dsimp only
          unfold replayGoodsReceipt
          split
          · refine writes_seq readOnly_read fun existing => ?_
            exact writes_readOnly (conforms_orFail fun _ _ => trivial)
          · exact writes_fail _

theorem setOpeningStock_writes {body : OpeningStockRequest}
    (hsite : ∀ ingredientId, sites (.setOpeningStock ingredientId))
    (hmovements : ∀ movements, N (appendMovements movements)) :
    Writes sites N (setOpeningStock user body) := by
  refine writes_seq readOnly_requireOwnerOrManager fun _ => ?_
  refine writes_seq readOnly_requireInventoryEnabled fun _ => ?_
  refine writes_seq readOnly_loadIngredient fun ingredient => ?_
  refine writes_seq readOnly_convert fun quantityMilli => ?_
  refine writes_seq readOnly_ensure fun _ => ?_
  refine writes_seq readOnly_read fun already => ?_
  refine writes_seq readOnly_ensure fun _ => ?_
  refine writes_seq readOnly_readNow fun now => ?_
  refine writes_bind (writes_tryCommit (hsite _) (hmovements _)) fun fault => ?_
  split
  · exact writes_done _
  · exact writes_fail _
  · exact writes_fail _

theorem createAdjustment_writes {body : AdjustmentRequest}
    (hsite : ∀ ingredientId, sites (.createAdjustment ingredientId))
    (hmovements : ∀ movements, N (appendMovements movements)) :
    Writes sites N (createAdjustment user body) := by
  refine writes_seq readOnly_requireOwnerOrManager fun _ => ?_
  refine writes_seq readOnly_requireInventoryEnabled fun _ => ?_
  refine writes_seq readOnly_loadIngredient fun ingredient => ?_
  refine writes_seq readOnly_found fun magnitude => ?_
  refine writes_seq readOnly_liftExcept fun isZero => ?_
  refine writes_seq readOnly_ensure fun _ => ?_
  refine writes_seq readOnly_liftExcept fun size => ?_
  refine writes_seq readOnly_convert fun quantityMilli => ?_
  refine writes_seq readOnly_liftExcept fun isNegative => ?_
  refine writes_seq readOnly_readNow fun now => ?_
  exact writes_bind (writes_commit (hsite _) (Session.extends_stage (hmovements _)))
    fun _ => writes_done _

end Frames

end NextgenBackend.RoutesInventory
