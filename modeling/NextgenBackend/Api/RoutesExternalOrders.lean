import NextgenBackend.Core.Rbac
import NextgenBackend.Delivery.OrderService

namespace NextgenBackend.RoutesExternalOrders

open Txn

open Delivery (normaliseKey)

structure MappingCreateRequest where
  platform : ExternalOrders.ExternalPlatform
  kind : ExternalMappingKind := .item
  externalText : String
  menuItemId : Option Uuid := none
  optionId : Option String := none
  menuAddOnId : Option Uuid := none
  removableRefId : Option String := none
  isIgnored : Bool := false
  kindListed : kind = .item ∨ kind = .modifier
  textBounded : 1 ≤ externalText.length ∧ externalText.length ≤ 500
  refsShort : ∀ ref ∈ [optionId, removableRefId], ∀ text ∈ ref, text.length ≤ 64

structure MappingResponse where
  id : Uuid
  externalText : String
deriving DecidableEq, Repr

def requireDeliveryReconciliationEnabled (business : Business) : Handler Unit :=
  ensure business.deliveryReconciliationEnabled ⟨"DELIVERY_RECONCILIATION_NOT_ENABLED",
    "Delivery reconciliation is not enabled for this business", 409, []⟩

def checkTarget (body : MappingCreateRequest) : Except AppError Unit :=
  if body.isIgnored then .ok ()
  else if body.kind = .item ∧ body.menuItemId = none then
    .error ⟨"MAPPING_TARGET_REQUIRED",
      "Choose the menu item this product is, or mark it as not affecting stock", 422, []⟩
  else if body.kind = .modifier ∧ body.menuAddOnId = none ∧
      (body.removableRefId.filter (· ≠ "")).isNone ∧ (body.optionId.filter (· ≠ "")).isNone then
    .error ⟨"MAPPING_TARGET_REQUIRED",
      "Choose what this modifier means, or mark it as not affecting stock", 422, []⟩
  else .ok ()

def requireMenuItem (businessId : Uuid) : Option Uuid → Handler Unit
  | none => pure ()
  | some menuItemId => do
      let _ ← requireOwned (fun db => db.menuItems) (fun m => m.businessId = businessId)
        "Menu item" menuItemId
      pure ()

def requireAddOn (businessId : Uuid) : Option Uuid → Handler Unit
  | none => pure ()
  | some menuAddOnId => do
      let _ ← requireOwned (fun db => db.menuAddOns) (fun a => a.businessId = businessId)
        "Add-on" menuAddOnId
      pure ()

def mappingsFor (businessId : Uuid) (body : MappingCreateRequest) (t : Tables) :
    List ExternalProductMapping :=
  t.externalProductMappings.filter fun m =>
    m.businessId = businessId ∧ m.platform = body.platform.value ∧ m.kind = body.kind ∧
      m.externalKey = normaliseKey body.externalText

def newMapping (user : AuthUser) (mappingId : Uuid) (body : MappingCreateRequest) :
    ExternalProductMapping where
  id := mappingId
  businessId := user.businessId
  platform := body.platform.value
  kind := body.kind
  externalText := body.externalText
  externalKey := normaliseKey body.externalText
  menuItemId := body.menuItemId
  optionId := body.optionId
  menuAddOnId := body.menuAddOnId
  removableRefId := body.removableRefId
  isIgnored := body.isIgnored
  createdByUserId := some user.userId

def remap (body : MappingCreateRequest) (mapping : ExternalProductMapping) :
    ExternalProductMapping :=
  { mapping with
    externalText := body.externalText
    menuItemId := body.menuItemId
    optionId := body.optionId
    menuAddOnId := body.menuAddOnId
    removableRefId := body.removableRefId
    isIgnored := body.isIgnored }

def insertMapping (mapping : ExternalProductMapping) : Pending := fun t =>
  { t with externalProductMappings := t.externalProductMappings.insert mapping }

def setMapping (mappingId : Uuid) (set : ExternalProductMapping → ExternalProductMapping) :
    Pending := fun t =>
  { t with externalProductMappings := t.externalProductMappings.modify mappingId set }

def saveMapping (user : AuthUser) (mappingId : Uuid) (body : MappingCreateRequest) :
    Option ExternalProductMapping → Handler Uuid
  | some mapping => do
      commit (.upsertMapping mapping.id) (Session.stage {} [] (setMapping mapping.id (remap body)))
      pure mapping.id
  | none => do
      commit (.upsertMapping mappingId) (Session.stage {} []
        (insertMapping (newMapping user mappingId body)))
      pure mappingId

def upsertMapping (user : AuthUser) (mappingId : Uuid) (body : MappingCreateRequest) :
    Handler MappingResponse := do
  requireOwnerOrManager user
  let business ← loadBusiness user.businessId
  requireDeliveryReconciliationEnabled business
  Pos.raiseError (checkTarget body)
  requireMenuItem user.businessId body.menuItemId
  requireAddOn user.businessId body.menuAddOnId
  let existing ← scalar fun db => mappingsFor user.businessId body db.toTables
  let savedId ← saveMapping user mappingId body existing
  let row ← .read fun db => db.externalProductMappings.lookup savedId
  let saved ← .orFail .unhandled row
  pure ⟨saved.id, saved.externalText⟩

end NextgenBackend.RoutesExternalOrders
