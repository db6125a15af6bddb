import NextgenBackend.Core.Session
import NextgenBackend.Shared.Pricing

namespace NextgenBackend.Pos

open Txn

structure POSAddOnSelection where
  addOnId : Uuid
  quantity : Int
deriving DecidableEq, Repr

structure POSItemInput where
  menuItemId : Uuid
  quantity : Int
  selectedOptionIds : List (String × String)
  addOnSelections : List POSAddOnSelection
  removedIngredientIds : List String
  specialInstructions : Option String
deriving DecidableEq, Repr

structure ResolvedPOSItem where
  menuItemId : Uuid
  name : String
  breakdown : LineItemBreakdown
  selectedOptionsSnapshot : List SelectedOption
  addOnsSnapshot : List SelectedAddOn
  removedIngredientsSnapshot : List RemovableIngredient
  specialInstructions : Option String
  requiresPreparation : Bool
deriving DecidableEq, Repr

def resolveGroup (menuItem : MenuItem) (selectedOptionIds : List (String × String))
    (group : OptionGroup) : Except AppError (Option SelectedOption) :=
  let chosen := (selectedOptionIds.lookup group.id).filter (· ≠ "")
  match chosen with
  | none =>
      if group.isEnabled ∧ group.required then
        .error ⟨"MISSING_REQUIRED_OPTION",
          "'" ++ group.name ++ "' is required for " ++ menuItem.name, 422,
          [("group_id", group.id), ("menu_item_id", toString menuItem.id)]⟩
      else .ok none
  | some optionId =>
      if ¬ group.isEnabled then .ok none
      else match (group.options.filter (·.isEnabled)).find? (·.id = optionId) with
        | none => .error ⟨"INVALID_OPTION",
            "Option " ++ optionId ++ " is not valid for group '" ++ group.name ++ "'", 422,
            [("group_id", group.id), ("option_id", optionId)]⟩
        | some o => .ok (some ⟨group.id, group.name, o.id, o.name, o.priceDeltaCents⟩)

def resolveSelectedOptions (menuItem : MenuItem) (selectedOptionIds : List (String × String)) :
    Except AppError (List SelectedOption) := do
  let chosen ← menuItem.optionGroups.mapM (resolveGroup menuItem selectedOptionIds)
  pure (chosen.filterMap id)

def resolveRemovedIngredient (menuItem : MenuItem) (ingredientId : String) :
    Except AppError RemovableIngredient :=
  match menuItem.removableIngredients.reverse.find? (·.id = ingredientId) with
  | some ingredient =>
      if ingredient.name = "" then .error (invalid menuItem ingredientId)
      else .ok ⟨ingredientId, ingredient.name⟩
  | none => .error (invalid menuItem ingredientId)
where
  invalid (menuItem : MenuItem) (ingredientId : String) : AppError :=
    ⟨"INVALID_REMOVED_INGREDIENT",
      "'" ++ ingredientId ++ "' is not a removable ingredient on " ++ menuItem.name, 422,
      [("ingredient_id", ingredientId), ("menu_item_id", toString menuItem.id)]⟩

def resolveRemovedIngredients (menuItem : MenuItem) (removedIngredientIds : List String) :
    Except AppError (List RemovableIngredient) :=
  removedIngredientIds.mapM (resolveRemovedIngredient menuItem)

def checkAddOnsAllowed (menuItem : MenuItem) (selections : List POSAddOnSelection) :
    Except AppError Unit :=
  let unknown := ((selections.map (·.addOnId)).filter (· ∉ menuItem.addOnIds)).eraseDups
  if unknown = [] then .ok ()
  else .error ⟨"INVALID_ADD_ON",
    "One or more add-ons are not available on " ++ menuItem.name, 422,
    [("add_on_ids", ", ".intercalate (unknown.map toString))]⟩

def resolveAddOn (addOns : List MenuAddOn) (selection : POSAddOnSelection) :
    Except AppError SelectedAddOn :=
  match addOns.find? (·.id = selection.addOnId) with
  | none => .error ⟨"INVALID_ADD_ON", "Add-on not found or no longer available", 422,
      [("add_on_id", toString selection.addOnId)]⟩
  | some addOn =>
      let quantity := max selection.quantity addOn.minQty
      let maxQty := addOn.maxQty
      if addOn.maxQty < quantity then
        .error ⟨"INVALID_ADD_ON_QUANTITY", addOn.name ++ s!" allows at most {maxQty} per line",
          422, []⟩
      else .ok ⟨addOn.id, addOn.name, addOn.priceCents, quantity⟩

def liveAddOns (businessId : Uuid) (db : Database) : List MenuAddOn :=
  db.menuAddOns.filter fun a => a.businessId = businessId ∧ a.isActive ∧ ¬ a.isDeleted

def liveMenuItems (businessId : Uuid) (db : Database) : List MenuItem :=
  db.menuItems.filter fun m => m.businessId = businessId ∧ ¬ m.isDeleted

def resolveItem (menuItems : List MenuItem) (addOns : List MenuAddOn) (item : POSItemInput) :
    Except AppError ResolvedPOSItem := do
  let menuItem ← match menuItems.find? (·.id = item.menuItemId) with
    | some menuItem => .ok menuItem
    | none => .error (notFoundError "Menu item" (some item.menuItemId))
  if ¬ menuItem.isActive then
    .error ⟨"MENU_ITEM_INACTIVE", menuItem.name ++ " is not currently available", 422,
      [("menu_item_id", toString menuItem.id)]⟩
  let selectedOptions ← resolveSelectedOptions menuItem item.selectedOptionIds
  checkAddOnsAllowed menuItem item.addOnSelections
  let selectedAddOns ← item.addOnSelections.mapM (resolveAddOn addOns)
  let removedIngredients ← resolveRemovedIngredients menuItem item.removedIngredientIds
  pure
    { menuItemId := menuItem.id
      name := menuItem.name
      breakdown := Pricing.calculateLineItem menuItem.priceCents selectedOptions selectedAddOns
        item.quantity
      selectedOptionsSnapshot := selectedOptions
      addOnsSnapshot := selectedAddOns
      removedIngredientsSnapshot := removedIngredients
      specialInstructions := item.specialInstructions
      requiresPreparation := menuItem.requiresPreparation }

def raiseError {α : Type} : Except AppError α → Handler α
  | .ok a => .done a
  | .error e => raise e

def resolveItems (menuItems : List MenuItem) (businessId : Uuid) :
    List POSItemInput → Handler (List ResolvedPOSItem)
  | [] => pure []
  | item :: items => do
      let addOns ← .read (liveAddOns businessId)
      let resolved ← raiseError (resolveItem menuItems addOns item)
      let rest ← resolveItems menuItems businessId items
      pure (resolved :: rest)

def resolvePosItems (businessId : Uuid) (items : List POSItemInput) :
    Handler (List ResolvedPOSItem) := do
  let menuItems ← .read (liveMenuItems businessId)
  resolveItems menuItems businessId items

theorem raiseError_ok {α : Type} (value : Except AppError α) :
    (raiseError value).ReadOnly fun a => value = .ok a := by
  unfold raiseError
  split
  · rfl
  · trivial

@[simp]
theorem readOnly_raiseError {α : Type} {value : Except AppError α} :
    (raiseError value).ReadOnly fun _ => True := by
  unfold raiseError
  split <;> trivial

@[simp]
theorem readOnly_resolvePosItems {businessId : Uuid} {items : List POSItemInput} :
    (resolvePosItems businessId items).ReadOnly fun _ => True := by
  refine readOnly_seq readOnly_read fun menuItems => ?_
  induction items with
  | nil => trivial
  | cons item items ih =>
      refine readOnly_seq readOnly_read fun addOns => ?_
      refine readOnly_seq readOnly_raiseError fun resolved => ?_
      exact readOnly_seq ih fun rest => trivial

end NextgenBackend.Pos
