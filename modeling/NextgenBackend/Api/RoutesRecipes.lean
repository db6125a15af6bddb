import NextgenBackend.Api.RoutesStocktake
import NextgenBackend.Core.Rbac

namespace NextgenBackend.RoutesRecipes

open Txn Inventory

open RoutesStocktake (requireInventoryEnabled)

structure RecipeItemRequest where
  ingredientId : Uuid
  quantity : String
  unit : String
  optionGroupId : Option String := none
  optionId : Option String := none
  removableRefId : Option String := none
  sortOrder : Int := 0
  unitShort : unit.length ≤ 32
  refsShort : ∀ ref ∈ [optionGroupId, optionId, removableRefId], ∀ text ∈ ref, text.length ≤ 64

structure RecipeUpsertRequest where
  menuItemId : Option Uuid := none
  menuAddOnId : Option Uuid := none
  yieldQty : Nat := 1
  notes : Option String := none
  items : List RecipeItemRequest := []
  yieldPositive : 0 < yieldQty

inductive RecipeParent where
  | menuItem (id : Uuid)
  | menuAddOn (id : Uuid)
deriving DecidableEq, Repr

def recipeParent (body : RecipeUpsertRequest) : Option RecipeParent :=
  match body.menuItemId, body.menuAddOnId with
  | some id, none => some (.menuItem id)
  | none, some id => some (.menuAddOn id)
  | _, _ => none

def requireParent (businessId : Uuid) : RecipeParent → Handler Unit
  | .menuItem id => do
      let _ ← requireOwned (fun db => db.menuItems) (fun m => m.businessId = businessId)
        "Menu item" id
      pure ()
  | .menuAddOn id => do
      let _ ← requireOwned (fun db => db.menuAddOns) (fun a => a.businessId = businessId)
        "Menu add-on" id
      pure ()

def loadIngredients (businessId : Uuid) (ids : List Uuid) : Handler (List Ingredient) :=
  if ids = [] then pure []
  else .read fun db => db.ingredients.filter fun i => i.businessId = businessId ∧ i.id ∈ ids

def RecipeParent.isOf (parent : RecipeParent) (recipe : Recipe) : Bool :=
  match parent with
  | .menuItem id => recipe.menuItemId = some id
  | .menuAddOn id => recipe.menuAddOnId = some id

def activeRecipes (businessId : Uuid) (parent : RecipeParent) (t : Tables) : List Recipe :=
  t.recipes.filter fun r => r.businessId = businessId ∧ r.isActive ∧ parent.isOf r

def recipeMilli (ingredient : Ingredient) (item : RecipeItemRequest) : Except Failure Int := do
  let quantityMilli ← translated ConversionError.isValueError
    (fun e => ⟨"INVALID_UNIT", ingredient.name ++ ": " ++ e, 422, []⟩)
    (toMilli (.typed item.quantity) item.unit ingredient.canonicalUnit)
  if quantityMilli ≤ 0 then
    .error (.app ⟨"INVALID_QUANTITY",
      ingredient.name ++ ": recipe quantity must be greater than zero", 422, []⟩)
  else .ok quantityMilli

def recipeItem (ingredient : Ingredient) (item : RecipeItemRequest) :
    Except Failure RecipeItem := do
  let quantityMilli ← recipeMilli ingredient item
  .ok
    { ingredientId := ingredient.id
      quantityMilli := quantityMilli
      optionId := item.optionId
      removableRefId := item.removableRefId
      sortOrder := item.sortOrder
      optionGroupId := item.optionGroupId }

def recipeItems (ingredients : List Ingredient) :
    List RecipeItemRequest → Except Failure (List RecipeItem)
  | [] => .ok []
  | item :: items =>
      match ingredients.find? fun i => i.id = item.ingredientId with
      | none => recipeItems ingredients items
      | some ingredient => do
          let line ← recipeItem ingredient item
          let rest ← recipeItems ingredients items
          .ok (line :: rest)

def newRecipe (user : AuthUser) (recipeId : Uuid) (body : RecipeUpsertRequest)
    (items : List RecipeItem) : Recipe where
  id := recipeId
  businessId := user.businessId
  menuItemId := body.menuItemId
  menuAddOnId := body.menuAddOnId
  isActive := true
  yieldQty := body.yieldQty
  yieldPositive := body.yieldPositive
  items := items
  notes := body.notes

def replaceRecipe (body : RecipeUpsertRequest) (version : Nat) (items : List RecipeItem)
    (recipe : Recipe) : Recipe :=
  { recipe with
    version := version
    yieldQty := body.yieldQty
    yieldPositive := body.yieldPositive
    notes := body.notes
    items := items }

def insertRecipe (recipe : Recipe) : Pending := fun t =>
  { t with recipes := t.recipes.insert recipe }

def setRecipe (recipeId : Uuid) (set : Recipe → Recipe) : Pending := fun t =>
  { t with recipes := t.recipes.modify recipeId set }

structure RecipeItemResponse where
  item : RecipeItem
  ingredientName : String
  canonicalUnit : CanonicalUnit
  costCents : Cents
deriving DecidableEq, Repr

structure RecipeResponse where
  id : Uuid
  menuItemId : Option Uuid
  menuAddOnId : Option Uuid
  version : Nat
  isActive : Bool
  yieldQty : Nat
  notes : Option String
  items : List RecipeItemResponse
  baseFoodCostCents : Cents
  maxFoodCostCents : Cents
deriving DecidableEq, Repr

def perPortionQuantityMilli (quantityMilli : Int) (yieldQty : Nat) : Int :=
  Pricing.roundHalfUp quantityMilli yieldQty

def itemResponse (yieldQty : Nat) (ingredients : List Ingredient) (line : RecipeItem) :
    RecipeItemResponse :=
  let ingredient := ingredients.find? fun i => i.id = line.ingredientId
  { item := line
    ingredientName := ingredient.elim "(deleted ingredient)" (·.name)
    canonicalUnit := ingredient.elim .unit (·.canonicalUnit)
    costCents := valueCents (perPortionQuantityMilli line.quantityMilli yieldQty)
      (ingredient.elim 0 (·.costPerCanonicalMicroCents)) }

def scopedTo (line : RecipeItemResponse) : Option String :=
  line.item.optionId.filter (· ≠ "")

def buildResponse (ingredients : List Ingredient) (recipe : Recipe) : RecipeResponse :=
  let items := (recipe.items.mergeSort fun a b => a.sortOrder ≤ b.sortOrder).map
    (itemResponse recipe.yieldQty ingredients)
  let base := ((items.filter fun line => (scopedTo line).isNone).map (·.costCents)).sum
  let optionCosts := GroupBy.sums scopedTo (·.costCents)
    (items.filter fun line => (scopedTo line).isSome)
  { id := recipe.id
    menuItemId := recipe.menuItemId
    menuAddOnId := recipe.menuAddOnId
    version := recipe.version
    isActive := recipe.isActive
    yieldQty := recipe.yieldQty
    notes := recipe.notes
    items := items
    baseFoodCostCents := base
    maxFoodCostCents := base + ((optionCosts.map (·.2)).max?).getD 0 }

def listRecipes (user : AuthUser) : Handler (List RecipeResponse) := do
  requireStaffOrAbove user
  let _ ← requireInventoryEnabled user.businessId
  let recipes ← .read fun db => db.recipes.filter fun r => r.businessId = user.businessId ∧ r.isActive
  let ingredients ← loadIngredients user.businessId
    (recipes.flatMap fun r => r.items.map (·.ingredientId))
  pure (recipes.map (buildResponse ingredients))

def getRecipeForMenuItem (user : AuthUser) (menuItemId : Uuid) : Handler RecipeResponse := do
  requireStaffOrAbove user
  let _ ← requireInventoryEnabled user.businessId
  let row ← scalar fun db => activeRecipes user.businessId (.menuItem menuItemId) db.toTables
  let recipe ← found (notFoundError "Recipe for menu item" (some menuItemId)) row
  let ingredients ← loadIngredients user.businessId (recipe.items.map (·.ingredientId))
  pure (buildResponse ingredients recipe)

def saveRecipe (user : AuthUser) (recipeId : Uuid) (body : RecipeUpsertRequest)
    (items : List RecipeItem) : Option Recipe → Handler Uuid
  | some recipe => do
      commit (.upsertRecipe recipe.id) (Session.stage {} []
        (setRecipe recipe.id (replaceRecipe body (max recipe.version 1 + 1) items)))
      pure recipe.id
  | none => do
      commit (.upsertRecipe recipeId) (Session.stage {} []
        (insertRecipe (newRecipe user recipeId body items)))
      pure recipeId

def upsertRecipe (user : AuthUser) (recipeId : Uuid) (body : RecipeUpsertRequest) :
    Handler RecipeResponse := do
  requireOwnerOrManager user
  let _ ← requireInventoryEnabled user.businessId
  let parent ← found ⟨"INVALID_RECIPE_PARENT",
    "Provide exactly one of menu_item_id or menu_add_on_id", 422, []⟩ (recipeParent body)
  requireParent user.businessId parent
  let ingredientIds := body.items.map (·.ingredientId)
  let ingredients ← loadIngredients user.businessId ingredientIds
  let unknown := ingredientIds.filter fun id => ∀ i ∈ ingredients, i.id ≠ id
  ensure (unknown = []) ⟨"UNKNOWN_INGREDIENT",
    "Unknown ingredient(s): " ++ ", ".intercalate (unknown.map fun id => s!"{id}"), 422, []⟩
  let existing ← scalar fun db => activeRecipes user.businessId parent db.toTables
  let items ← liftExcept (recipeItems ingredients body.items)
  let savedId ← saveRecipe user recipeId body items existing
  let row ← .read fun db => db.recipes.lookup savedId
  let saved ← .orFail .unhandled row
  pure (buildResponse ingredients saved)

end NextgenBackend.RoutesRecipes
