import NextgenBackend.Core.Rbac

namespace NextgenBackend.RoutesMenu

open Txn

structure StorageSettings where
  supabaseUrl : String
  supabaseStorageBucket : String

def assetPublicUrl (settings : StorageSettings) (storagePath : String) : String :=
  settings.supabaseUrl ++ "/storage/v1/object/public/" ++ settings.supabaseStorageBucket ++ "/" ++
    storagePath

def resolveItemImage (settings : StorageSettings) (businessId : Uuid) :
    Option Uuid → Handler (Option (String × Asset))
  | none => pure none
  | some imageAssetId => do
      let row ← .read fun db =>
        (db.assets.lookup imageAssetId).filter fun a => a.businessId = businessId
      let asset ← found ⟨"NOT_FOUND", "Asset not found", 404, []⟩ row
      pure (some (assetPublicUrl settings asset.storagePath, asset))

def requireCategory (businessId : Uuid) : Option Uuid → Handler Unit
  | none => pure ()
  | some categoryId => do
      let _ ← requireOwned (fun db => db.menuCategories) (fun c => c.businessId = businessId)
        "Category" categoryId
      pure ()

def bounded (text : String) (longest : Nat) : Prop :=
  1 ≤ text.length ∧ text.length ≤ longest

structure MenuItemOptions where
  optionGroups : List OptionGroup := []
  removableIngredients : List RemovableIngredient := []
  groups : ∀ g ∈ optionGroups, bounded g.id 64 ∧ bounded g.name 128 ∧ g.options ≠ []
  limits : ∀ g ∈ optionGroups, 1 ≤ g.maxSelections ∧ g.minSelections ≤ g.maxSelections
  options : ∀ g ∈ optionGroups, ∀ o ∈ g.options, bounded o.id 64 ∧ bounded o.name 128
  ingredients : ∀ r ∈ removableIngredients, bounded r.id 64 ∧ bounded r.name 128

structure ItemCreate where
  categoryId : Option Uuid := none
  name : String
  description : Option String := none
  priceCents : Cents
  optionsJson : Option MenuItemOptions := none
  sortOrder : Int := 0
  imageAssetId : Option Uuid := none
  requiresPreparation : Bool := true
  nameShort : name.length ≤ 255
  priceNonnegative : 0 ≤ priceCents

-- A field of a patch is left out, null or given.
abbrev Patch (α : Type) := Option (Option α)

structure ItemUpdate where
  categoryId : Patch Uuid := none
  name : Patch String := none
  description : Patch String := none
  priceCents : Patch Cents := none
  optionsJson : Patch MenuItemOptions := none
  isActive : Patch Bool := none
  sortOrder : Patch Int := none
  imageAssetId : Patch Uuid := none
  requiresPreparation : Patch Bool := none
  priceNonnegative : ∀ price ∈ priceCents.join, 0 ≤ price

def optionGroups (optionsJson : Option MenuItemOptions) : List OptionGroup :=
  optionsJson.elim [] (·.optionGroups)

def removableIngredients (optionsJson : Option MenuItemOptions) : List RemovableIngredient :=
  optionsJson.elim [] (·.removableIngredients)

def newItem (user : AuthUser) (itemId : Uuid) (body : ItemCreate) (imageUrl : Option String)
    (currency : String) : MenuItem where
  id := itemId
  businessId := user.businessId
  name := body.name
  priceCents := body.priceCents
  optionGroups := optionGroups body.optionsJson
  removableIngredients := removableIngredients body.optionsJson
  addOnIds := []
  isActive := true
  isDeleted := false
  requiresPreparation := body.requiresPreparation
  categoryId := body.categoryId
  description := body.description
  currency := currency
  sortOrder := body.sortOrder
  imageUrl := imageUrl
  imageAssetId := body.imageAssetId

def insertMenuItem (item : MenuItem) : Pending := fun t =>
  { t with menuItems := t.menuItems.insert item }

def setMenuItem (itemId : Uuid) (set : MenuItem → MenuItem) : Pending := fun t =>
  { t with menuItems := t.menuItems.modify itemId set }

def linkAsset (image : Option (String × Asset)) (itemId : Uuid) : Pending :=
  match image with
  | none => id
  | some (_, asset) => fun t =>
      { t with assets := t.assets.modify asset.id fun a => { a with entityId := some itemId } }

def refreshItem (itemId : Uuid) : Handler MenuItem := do
  let row ← .read fun db => db.menuItems.lookup itemId
  .orFail .unhandled row

def createItem (settings : StorageSettings) (user : AuthUser) (itemId : Uuid) (body : ItemCreate) :
    Handler MenuItem := do
  requireOwnerOrManager user
  let image ← resolveItemImage settings user.businessId body.imageAssetId
  requireCategory user.businessId body.categoryId
  let business ← .read fun db => db.businesses.lookup user.businessId
  let item := newItem user itemId body (image.map (·.1)) (business.elim "ZAR" (·.currency))
  let session := Session.stage {} [] (insertMenuItem item)
  commit (.createItem itemId) (session.stage [] (linkAsset image itemId))
  refreshItem itemId

def setFields (body : ItemUpdate) (image : Option (String × Asset)) (item : MenuItem) : MenuItem :=
  { item with
    categoryId := body.categoryId.getD item.categoryId
    name := body.name.join.getD item.name
    description := body.description.getD item.description
    priceCents := body.priceCents.join.getD item.priceCents
    optionGroups := body.optionsJson.elim item.optionGroups optionGroups
    removableIngredients := body.optionsJson.elim item.removableIngredients removableIngredients
    isActive := body.isActive.join.getD item.isActive
    sortOrder := body.sortOrder.join.getD item.sortOrder
    imageUrl := if body.imageAssetId.isSome then image.map (·.1) else item.imageUrl
    imageAssetId := body.imageAssetId.getD item.imageAssetId
    requiresPreparation := body.requiresPreparation.join.getD item.requiresPreparation }

-- These columns take no null, and a name of at most 255 characters: the UPDATE itself fails.
def storable (body : ItemUpdate) : Bool :=
  body.name ≠ some none && body.priceCents ≠ some none && body.isActive ≠ some none &&
    body.sortOrder ≠ some none && body.requiresPreparation ≠ some none &&
    body.name.join.all fun name => name.length ≤ 255

def updateItem (settings : StorageSettings) (user : AuthUser) (itemId : Uuid) (body : ItemUpdate) :
    Handler MenuItem := do
  requireOwnerOrManager user
  let item ← requireOwned (fun db => db.menuItems)
    (fun m => m.businessId = user.businessId ∧ ¬ m.isDeleted) "Menu item" itemId
  requireCategory user.businessId body.categoryId.join
  let image ← resolveItemImage settings user.businessId body.imageAssetId.join
  .require (storable body = true) .unhandled
  let session := Session.stage {} [] (setMenuItem item.id (setFields body image))
  commit (.updateItem itemId) (session.stage [] (linkAsset image itemId))
  refreshItem itemId

-- The INSERT into the join table does nothing where the pair is there already.
def linkAddOn (itemId addOnId : Uuid) : Pending :=
  setMenuItem itemId fun m =>
    { m with addOnIds := if addOnId ∈ m.addOnIds then m.addOnIds else m.addOnIds ++ [addOnId] }

def attachAddOn (user : AuthUser) (itemId addOnId : Uuid) : Handler Unit := do
  requireOwnerOrManager user
  let _ ← requireOwned (fun db => db.menuItems)
    (fun m => m.businessId = user.businessId ∧ ¬ m.isDeleted) "Menu item" itemId
  let _ ← requireOwned (fun db => db.menuAddOns)
    (fun a => a.businessId = user.businessId ∧ ¬ a.isDeleted) "Menu add-on" addOnId
  commit (.attachAddOn itemId addOnId) (Session.stage {} [] (linkAddOn itemId addOnId))

end NextgenBackend.RoutesMenu
