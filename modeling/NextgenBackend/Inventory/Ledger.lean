import NextgenBackend.Inventory.Units
import NextgenBackend.Library.GroupBy
import NextgenBackend.Pos.Pricing
import NextgenBackend.Shared.Pricing

namespace NextgenBackend.Inventory

open Txn

structure RecipeLineSpec where
  ingredientId : Uuid
  quantityMilli : Int
  optionId : Option String
  removableRefId : Option String
deriving DecidableEq, Repr

structure RecipeSpec where
  lines : List RecipeLineSpec
  yieldQty : Nat
  yieldPositive : 0 < yieldQty
deriving Repr

instance : DecidableEq RecipeSpec := fun a b =>
  decidable_of_iff (a.lines = b.lines ∧ a.yieldQty = b.yieldQty) (by cases a; cases b; simp)

structure AddOnSelectionSpec where
  addOnId : Uuid
  quantity : Int
deriving DecidableEq, Repr

structure LineItemSpec where
  menuItemId : Uuid
  quantity : Int
  selectedOptionIds : List String
  addOnSelections : List AddOnSelectionSpec
  removedRefIds : List String
deriving DecidableEq, Repr

structure IngredientConsumption where
  ingredientId : Uuid
  quantityMilli : Int
deriving DecidableEq, Repr

structure ConsumptionResult where
  lines : List IngredientConsumption
  menuItemsWithoutRecipe : List Uuid
deriving DecidableEq, Repr

def scale (quantityMilli multiplier : Int) (yieldQty : Nat) : Int :=
  Pricing.roundHalfUp (quantityMilli * multiplier) yieldQty

def addConsumption (totals : List IngredientConsumption) (ingredientId : Uuid) (amount : Int) :
    List IngredientConsumption :=
  match totals with
  | [] => [⟨ingredientId, amount⟩]
  | c :: totals =>
      if c.ingredientId = ingredientId then ⟨ingredientId, c.quantityMilli + amount⟩ :: totals
      else c :: addConsumption totals ingredientId amount

def lineApplies (item : LineItemSpec) (line : RecipeLineSpec) : Bool :=
  let removed := line.removableRefId.any fun r => r ≠ "" && item.removedRefIds.contains r
  !removed && line.optionId.all item.selectedOptionIds.contains

def addRecipe (item : LineItemSpec) (recipe : RecipeSpec) (multiplier : Int)
    (totals : List IngredientConsumption) : List IngredientConsumption :=
  (recipe.lines.filter (lineApplies item)).foldl (fun totals line =>
    let amount := scale line.quantityMilli multiplier recipe.yieldQty
    if amount = 0 then totals else addConsumption totals line.ingredientId amount) totals

def resolveLineItem (item : LineItemSpec) (itemRecipe : Option RecipeSpec)
    (addOnRecipes : Uuid → Option RecipeSpec) : List IngredientConsumption :=
  let base := itemRecipe.elim [] fun recipe => addRecipe item recipe item.quantity []
  item.addOnSelections.foldl (fun totals selection =>
    (addOnRecipes selection.addOnId).elim totals fun recipe =>
      addRecipe item recipe (item.quantity * max 0 selection.quantity) totals) base

def resolveOrder (items : List LineItemSpec) (itemRecipes addOnRecipes : Uuid → Option RecipeSpec) :
    ConsumptionResult where
  lines := items.foldl (fun totals item =>
    (resolveLineItem item (itemRecipes item.menuItemId) addOnRecipes).foldl
      (fun totals c => addConsumption totals c.ingredientId c.quantityMilli) totals) []
  menuItemsWithoutRecipe :=
    ((items.map (·.menuItemId)).filter fun id => (itemRecipes id).isNone).eraseDups

def recipeSpec (recipe : Recipe) : RecipeSpec where
  lines := (recipe.items.mergeSort fun a b => a.sortOrder ≤ b.sortOrder).map fun line =>
    ⟨line.ingredientId, line.quantityMilli, line.optionId, line.removableRefId⟩
  yieldQty := recipe.yieldQty
  yieldPositive := recipe.yieldPositive

structure RecipeSpecs where
  items : List (Uuid × RecipeSpec)
  addOns : List (Uuid × RecipeSpec)

def RecipeSpecs.item (specs : RecipeSpecs) (id : Uuid) : Option RecipeSpec :=
  specs.items.reverse.lookup id

def RecipeSpecs.addOn (specs : RecipeSpecs) (id : Uuid) : Option RecipeSpec :=
  specs.addOns.reverse.lookup id

def loadRecipeSpecs (businessId : Uuid) (menuItemIds addOnIds : List Uuid) (db : Database) :
    RecipeSpecs :=
  let recipes := db.recipes.filter fun r =>
    r.businessId = businessId ∧ r.isActive ∧
      (r.menuItemId.any menuItemIds.contains ∨ r.menuAddOnId.any addOnIds.contains)
  { items := recipes.filterMap fun r => r.menuItemId.map fun id => (id, recipeSpec r)
    addOns := recipes.filterMap fun r =>
      if r.menuItemId.isSome then none else r.menuAddOnId.map fun id => (id, recipeSpec r) }

def setEntry (entries : List (String × String)) (name value : String) : List (String × String) :=
  match entries with
  | [] => [(name, value)]
  | e :: entries =>
      if e.1 = name then (name, value) :: entries else e :: setEntry entries name value

def selectedOptionIds (snapshot : List SelectedOption) : List (String × String) :=
  snapshot.foldl (fun selected o =>
    if o.groupId ≠ "" ∧ o.optionId ≠ "" then setEntry selected o.groupId o.optionId
    else selected) []

def lineSpec (item : Pos.ResolvedPOSItem) : LineItemSpec where
  menuItemId := item.menuItemId
  quantity := item.breakdown.quantity
  selectedOptionIds := (selectedOptionIds item.selectedOptionsSnapshot).map (·.2)
  addOnSelections := item.addOnsSnapshot.map fun a =>
    ⟨a.addOnId, if a.quantity = 0 then 1 else a.quantity⟩
  removedRefIds := (item.removedIngredientsSnapshot.map (·.id)).filter (· ≠ "")

def buildMovement (businessId ingredientId : Uuid) (quantityMilli : Int)
    (movementType : StockMovementType) (unitCostMicroCents : Int)
    (sourceType : Option StockSourceType) (sourceId : Option Uuid) (createdByUserId : Option Uuid)
    (idempotencyKey : Option StockIdempotencyKey) (notes : Option String) (occurredAt : Instant) :
    StockMovement where
  businessId := businessId
  ingredientId := ingredientId
  quantityMilli := quantityMilli
  movementType := movementType
  sourceType := sourceType
  sourceId := sourceId
  unitCostMicroCents := unitCostMicroCents
  valueCents := valueCents quantityMilli unitCostMicroCents
  createdByUserId := createdByUserId
  idempotencyKey := idempotencyKey
  notes := notes
  occurredAt := occurredAt

def ingredientCost (businessId : Uuid) (ingredients : Table Ingredient) (id : Uuid) : Int :=
  ((ingredients.lookup id).filter fun i => i.businessId = businessId).elim 0
    (·.costPerCanonicalMicroCents)

def saleMovements (businessId orderId : Uuid) (userId : Option Uuid) (occurredAt : Instant)
    (lines : List IngredientConsumption) (ingredients : Table Ingredient) : List StockMovement :=
  lines.map fun line =>
    buildMovement businessId line.ingredientId (-(line.quantityMilli.natAbs : Int)) .saleConsumption
      (ingredientCost businessId ingredients line.ingredientId) (some .order) (some orderId)
      userId (some (.sale orderId line.ingredientId)) none occurredAt

def appendMovements (movements : List StockMovement) : Pending := fun t =>
  { t with stockMovements := t.stockMovements ++ movements }

def postSaleConsumption (session : Session) (businessId orderId : Uuid) (userId : Option Uuid)
    (specs : List LineItemSpec) (occurredAt : Instant) : Handler Session := do
  let recipes ← .read (loadRecipeSpecs businessId (specs.map (·.menuItemId))
    (specs.flatMap fun s => s.addOnSelections.map (·.addOnId)))
  let result := resolveOrder specs recipes.item recipes.addOn
  if result.lines = [] then pure session else do
    let ingredients ← .read fun db => db.ingredients
    pure (session.stage [] (appendMovements
      (saleMovements businessId orderId userId occurredAt result.lines ingredients)))

def orderMovements (businessId orderId : Uuid) (types : List StockMovementType)
    (movements : List StockMovement) : List StockMovement :=
  movements.filter fun m =>
    m.businessId = businessId ∧ m.sourceType = some .order ∧ m.sourceId = some orderId ∧
      m.movementType ∈ types

def reversals (businessId orderId : Uuid) (userId : Option Uuid) (notes : Option String) (now : Instant) :
    List StockMovement → List Uuid → List StockMovement
  | [], _ => []
  | original :: originals, already =>
      if original.ingredientId ∈ already then
        reversals businessId orderId userId notes now originals already
      else
        buildMovement businessId original.ingredientId (-original.quantityMilli) .saleReversal
            original.unitCostMicroCents (some .order) (some orderId) userId
            (some (.reversal orderId original.ingredientId)) notes now ::
          reversals businessId orderId userId notes now originals
            (original.ingredientId :: already)

def reverseSaleConsumption (session : Session) (businessId orderId : Uuid) (userId : Option Uuid)
    (notes : Option String) : Handler Session := do
  let originals ← .read fun db =>
    orderMovements businessId orderId [.saleConsumption, .remakeConsumption] db.stockMovements
  if originals = [] then pure session else do
    let already ← .read fun db =>
      (orderMovements businessId orderId [.saleReversal] db.stockMovements).map (·.ingredientId)
    let now ← readNow
    pure (session.stage [] (appendMovements
      (reversals businessId orderId userId notes now originals already)))

def dated (since upTo : Option Instant) (m : StockMovement) : Bool :=
  since.all (fun since => since < m.occurredAt) && upTo.all (fun upTo => m.occurredAt ≤ upTo)

def ledgerRows (movements : List StockMovement) (businessId : Uuid) (since upTo : Option Instant)
    (ingredientIds : List Uuid) : List StockMovement :=
  movements.filter fun m =>
    m.businessId = businessId ∧ dated since upTo m ∧
      (ingredientIds = [] ∨ m.ingredientId ∈ ingredientIds)

def stockOnHand (movements : List StockMovement) (businessId : Uuid) (asOf : Option Instant)
    (ingredientIds : List Uuid) : List (Uuid × Int) :=
  GroupBy.sums (·.ingredientId) (·.quantityMilli)
    (ledgerRows movements businessId none asOf ingredientIds)

def movementTotalsByType (movements : List StockMovement) (businessId : Uuid)
    (since upTo : Option Instant) (ingredientIds : List Uuid) :
    List ((Uuid × StockMovementType) × Int) :=
  GroupBy.sums (fun m => (m.ingredientId, m.movementType)) (·.quantityMilli)
    (ledgerRows movements businessId since upTo ingredientIds)

section Frames

variable {N : Pending → Prop} {session : Session} {businessId orderId : Uuid} {userId : Option Uuid}

theorem postSaleConsumption_sells {specs : List LineItemSpec} {occurredAt : Instant}
    (hN : Neutral N) (hsales : ∀ lines ingredients,
      N (appendMovements (saleMovements businessId orderId userId occurredAt lines ingredients))) :
    (postSaleConsumption session businessId orderId userId specs occurredAt).ReadOnly
      (session.Extends N) := by
  refine readOnly_seq readOnly_read fun recipes => ?_
  dsimp only
  split
  · exact hN.refl
  · exact readOnly_seq readOnly_read fun _ => Session.extends_stage (hsales _ _)

theorem postSaleConsumption_stages {specs : List LineItemSpec} {occurredAt : Instant}
    (hN : Neutral N) (hmovements : ∀ movements, N (appendMovements movements)) :
    (postSaleConsumption session businessId orderId userId specs occurredAt).ReadOnly
      (session.Extends N) :=
  postSaleConsumption_sells hN fun _ _ => hmovements _

theorem reverseSaleConsumption_reverses {notes : Option String} (hN : Neutral N)
    (hreversals : ∀ now originals already,
      N (appendMovements (reversals businessId orderId userId notes now originals already))) :
    (reverseSaleConsumption session businessId orderId userId notes).ReadOnly
      (session.Extends N) := by
  apply readOnly_seq readOnly_read
  intro originals
  split
  · exact hN.refl
  · apply readOnly_seq readOnly_read
    intro already
    apply readOnly_seq readOnly_readNow
    intro now
    exact Session.extends_stage (hreversals now originals already)

theorem reverseSaleConsumption_stages {notes : Option String} (hN : Neutral N)
    (hmovements : ∀ movements, N (appendMovements movements)) :
    (reverseSaleConsumption session businessId orderId userId notes).ReadOnly
      (session.Extends N) :=
  reverseSaleConsumption_reverses hN fun _ _ _ => hmovements _

end Frames

def prePreparationStatuses : List OrderStatus :=
  [.pendingDeliveryFee, .feeSent, .new, .accepted]

def cancelledNotes : String := "Order cancelled before preparation started"

def reverseConsumptionOnCancel (session : Session) (businessId : Uuid) (inventoryEnabled : Bool)
    (orderId : Uuid) (previousStatus : OrderStatus) (createdByUserId : Option Uuid) :
    Handler Session :=
  if ¬ inventoryEnabled then pure session
  else if previousStatus ∈ prePreparationStatuses then
    reverseSaleConsumption session businessId orderId createdByUserId (some cancelledNotes)
  else pure session

theorem reverseConsumptionOnCancel_stages {N : Pending → Prop} {session : Session}
    {businessId orderId : Uuid} {inventoryEnabled : Bool} {previousStatus : OrderStatus}
    {userId : Option Uuid} (hN : Neutral N)
    (hreversals : previousStatus ∈ prePreparationStatuses → ∀ now originals already,
      N (appendMovements
        (reversals businessId orderId userId (some cancelledNotes) now originals already))) :
    (reverseConsumptionOnCancel session businessId inventoryEnabled orderId previousStatus
      userId).ReadOnly (session.Extends N) := by
  unfold reverseConsumptionOnCancel
  split
  · exact hN.refl
  · split
    next hbefore => exact reverseSaleConsumption_reverses hN (hreversals hbefore)
    next => exact hN.refl

theorem mem_reversals {businessId orderId : Uuid} {userId : Option Uuid} {notes : Option String}
    {now : Instant} {originals : List StockMovement} {already : List Uuid} {m : StockMovement}
    (h : m ∈ reversals businessId orderId userId notes now originals already) :
    ∃ original ∈ originals, original.ingredientId ∉ already ∧
      m = buildMovement businessId original.ingredientId (-original.quantityMilli) .saleReversal
        original.unitCostMicroCents (some .order) (some orderId) userId
        (some (.reversal orderId original.ingredientId)) notes now := by
  induction originals generalizing already with
  | nil => simp [reversals] at h
  | cons original originals ih =>
      simp only [reversals] at h
      split at h
      next hmem =>
        obtain ⟨found, hfound, hnew, hm⟩ := ih h
        exact ⟨found, List.mem_cons_of_mem _ hfound, hnew, hm⟩
      next hnew =>
        rcases List.mem_cons.mp h with hm | hrest
        · exact ⟨original, List.mem_cons_self, hnew, hm⟩
        · obtain ⟨found, hfound, hnotin, hm⟩ := ih hrest
          have hnotin : found.ingredientId ∉ already := fun hin =>
            hnotin (List.mem_cons_of_mem _ hin)
          exact ⟨found, List.mem_cons_of_mem _ hfound, hnotin, hm⟩

theorem reversals_cover {businessId orderId : Uuid} {userId : Option Uuid} {notes : Option String}
    {now : Instant} {originals : List StockMovement} {already : List Uuid}
    {original : StockMovement} (h : original ∈ originals)
    (hnew : original.ingredientId ∉ already) :
    ∃ m ∈ reversals businessId orderId userId notes now originals already,
      m.ingredientId = original.ingredientId := by
  induction originals generalizing already with
  | nil => simp at h
  | cons first originals ih =>
      simp only [reversals]
      split
      next hfirst =>
        rcases List.mem_cons.mp h with rfl | hrest
        · exact absurd hfirst hnew
        · exact ih hrest hnew
      next =>
        by_cases heq : original.ingredientId = first.ingredientId
        · exact ⟨_, List.mem_cons_self, heq.symm⟩
        · rcases List.mem_cons.mp h with rfl | hrest
          · exact absurd rfl heq
          · have hnew : original.ingredientId ∉ first.ingredientId :: already := by
              simp [heq, hnew]
            obtain ⟨m, hm, hid⟩ := ih hrest hnew
            exact ⟨m, List.mem_cons_of_mem _ hm, hid⟩

end NextgenBackend.Inventory
