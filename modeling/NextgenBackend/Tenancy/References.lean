import NextgenBackend.Api.RoutesExternalOrders
import NextgenBackend.Api.RoutesMenu
import NextgenBackend.Api.RoutesRecipes
import NextgenBackend.Api.RoutesWastage

namespace NextgenBackend

inductive Resource where
  | category | asset | menuItem | addOn | ingredient | supplier | order | reward | intent
deriving DecidableEq, Repr

structure Reference where
  businessId : Uuid
  resource : Resource
  id : Uuid
deriving DecidableEq, Repr

def Tables.owner (t : Tables) : Resource → Uuid → Option Uuid
  | .category, id => (t.menuCategories.lookup id).map (·.businessId)
  | .asset, id => (t.assets.lookup id).map (·.businessId)
  | .menuItem, id => (t.menuItems.lookup id).map (·.businessId)
  | .addOn, id => (t.menuAddOns.lookup id).map (·.businessId)
  | .ingredient, id => (t.ingredients.lookup id).map (·.businessId)
  | .supplier, id => (t.suppliers.lookup id).map (·.businessId)
  | .order, id => (t.orders.lookup id).map (·.businessId)
  | .reward, id => (t.loyaltyRewards.lookup id).map (·.businessId)
  | .intent, id => (t.intents.lookup id).map (·.businessId)

def refers (businessId : Uuid) (resource : Resource) (ids : List Uuid) : List Reference :=
  ids.map fun id => ⟨businessId, resource, id⟩

def MenuItem.references (m : MenuItem) : List Reference :=
  refers m.businessId .category m.categoryId.toList ++
    refers m.businessId .asset m.imageAssetId.toList ++ refers m.businessId .addOn m.addOnIds

def Recipe.references (r : Recipe) : List Reference :=
  refers r.businessId .menuItem r.menuItemId.toList ++
    refers r.businessId .addOn r.menuAddOnId.toList ++
    refers r.businessId .ingredient (r.items.map (·.ingredientId))

def GoodsReceipt.references (g : GoodsReceipt) : List Reference :=
  refers g.businessId .supplier g.supplierId.toList

def GoodsReceiptLine.references (l : GoodsReceiptLine) : List Reference :=
  refers l.businessId .ingredient [l.ingredientId]

def StockMovement.references (m : StockMovement) : List Reference :=
  refers m.businessId .ingredient [m.ingredientId]

def WastageEntry.references (w : WastageEntry) : List Reference :=
  refers w.businessId .ingredient [w.ingredientId] ++
    refers w.businessId .asset w.photoAssetId.toList ++
    refers w.businessId .order w.relatedOrderId.toList

def ExternalProductMapping.references (m : ExternalProductMapping) : List Reference :=
  refers m.businessId .menuItem m.menuItemId.toList ++
    refers m.businessId .addOn m.menuAddOnId.toList

def OrderItem.references (i : OrderItem) : List Reference :=
  refers i.businessId .menuItem i.menuItemId.toList ++
    refers i.businessId .addOn (i.addOnsSnapshot.map (·.addOnId))

structure Tables.Refer (t : Tables) (P : Reference → Prop) : Prop where
  menuItems : ∀ m ∈ t.menuItems, ∀ r ∈ m.references, P r
  recipes : ∀ recipe ∈ t.recipes, ∀ r ∈ recipe.references, P r
  goodsReceipts : ∀ g ∈ t.goodsReceipts, ∀ r ∈ g.references, P r
  goodsReceiptLines : ∀ l ∈ t.goodsReceiptLines, ∀ r ∈ l.references, P r
  stockMovements : ∀ m ∈ t.stockMovements, ∀ r ∈ m.references, P r
  wastageEntries : ∀ w ∈ t.wastageEntries, ∀ r ∈ w.references, P r
  externalProductMappings : ∀ m ∈ t.externalProductMappings, ∀ r ∈ m.references, P r
  orderItems : ∀ i ∈ t.orderItems, ∀ r ∈ i.references, P r

def Tables.Owns (t : Tables) (r : Reference) : Prop :=
  t.owner r.resource r.id = some r.businessId

-- Every stored reference points to a row of the business whose row holds it.
def OwnReferences (t : Tables) : Prop :=
  t.Refer t.Owns

-- What was owned still is, and nothing refers to what these tables do not own.
structure Anchored (t₀ t : Tables) : Prop where
  keeps : ∀ r, t₀.Owns r → t.Owns r
  refer : t.Refer t₀.Owns

variable {t₀ t t' : Tables} {P Q : Reference → Prop} {businessId : Uuid}

theorem Tables.Refer.mono (h : t.Refer P) (hPQ : ∀ r, P r → Q r) : t.Refer Q where
  menuItems m hm r hr := hPQ r (h.menuItems m hm r hr)
  recipes recipe hrecipe r hr := hPQ r (h.recipes recipe hrecipe r hr)
  goodsReceipts g hg r hr := hPQ r (h.goodsReceipts g hg r hr)
  goodsReceiptLines l hl r hr := hPQ r (h.goodsReceiptLines l hl r hr)
  stockMovements m hm r hr := hPQ r (h.stockMovements m hm r hr)
  wastageEntries w hw r hr := hPQ r (h.wastageEntries w hw r hr)
  externalProductMappings m hm r hr := hPQ r (h.externalProductMappings m hm r hr)
  orderItems i hi r hr := hPQ r (h.orderItems i hi r hr)

theorem OwnReferences.anchored (h : OwnReferences t) : Anchored t t :=
  ⟨fun _ => id, h⟩

theorem Anchored.own (h : Anchored t₀ t) : OwnReferences t :=
  h.refer.mono h.keeps

theorem Anchored.aside (h : Anchored t₀ t) (howner : t'.owner = t.owner) (href : t'.Refer t₀.Owns) :
    Anchored t₀ t' :=
  ⟨fun r hr => by simpa only [Tables.Owns, howner] using h.keeps r hr, href⟩

@[simp]
theorem forall_refers {resource : Resource} {ids : List Uuid} :
    (∀ r ∈ refers businessId resource ids, P r) ↔ ∀ id ∈ ids, P ⟨businessId, resource, id⟩ := by
  simp [refers]

theorem MenuItem.forall_references {m : MenuItem} :
    (∀ r ∈ m.references, P r) ↔ (∀ id ∈ m.categoryId, P ⟨m.businessId, .category, id⟩) ∧
      (∀ id ∈ m.imageAssetId, P ⟨m.businessId, .asset, id⟩) ∧
      ∀ id ∈ m.addOnIds, P ⟨m.businessId, .addOn, id⟩ := by
  simp only [references, List.forall_mem_append, forall_refers, Option.mem_toList, Option.mem_def,
    and_assoc]

theorem Recipe.forall_references {recipe : Recipe} :
    (∀ r ∈ recipe.references, P r) ↔
      (∀ id ∈ recipe.menuItemId, P ⟨recipe.businessId, .menuItem, id⟩) ∧
      (∀ id ∈ recipe.menuAddOnId, P ⟨recipe.businessId, .addOn, id⟩) ∧
      ∀ line ∈ recipe.items, P ⟨recipe.businessId, .ingredient, line.ingredientId⟩ := by
  simp only [references, List.forall_mem_append, forall_refers, Option.mem_toList, Option.mem_def,
    and_assoc, List.forall_mem_map]

theorem GoodsReceipt.forall_references {g : GoodsReceipt} :
    (∀ r ∈ g.references, P r) ↔ ∀ id ∈ g.supplierId, P ⟨g.businessId, .supplier, id⟩ := by
  simp only [references, forall_refers, Option.mem_toList, Option.mem_def]

theorem GoodsReceiptLine.forall_references {l : GoodsReceiptLine} :
    (∀ r ∈ l.references, P r) ↔ P ⟨l.businessId, .ingredient, l.ingredientId⟩ := by
  simp [references]

theorem StockMovement.forall_references {m : StockMovement} :
    (∀ r ∈ m.references, P r) ↔ P ⟨m.businessId, .ingredient, m.ingredientId⟩ := by
  simp [references]

theorem WastageEntry.forall_references {w : WastageEntry} :
    (∀ r ∈ w.references, P r) ↔ P ⟨w.businessId, .ingredient, w.ingredientId⟩ ∧
      (∀ id ∈ w.photoAssetId, P ⟨w.businessId, .asset, id⟩) ∧
      ∀ id ∈ w.relatedOrderId, P ⟨w.businessId, .order, id⟩ := by
  simp only [references, List.forall_mem_append, forall_refers, Option.mem_toList, Option.mem_def,
    and_assoc, List.forall_mem_singleton]

theorem ExternalProductMapping.forall_references {m : ExternalProductMapping} :
    (∀ r ∈ m.references, P r) ↔ (∀ id ∈ m.menuItemId, P ⟨m.businessId, .menuItem, id⟩) ∧
      ∀ id ∈ m.menuAddOnId, P ⟨m.businessId, .addOn, id⟩ := by
  simp only [references, List.forall_mem_append, forall_refers, Option.mem_toList, Option.mem_def]

theorem OrderItem.forall_references {i : OrderItem} :
    (∀ r ∈ i.references, P r) ↔ (∀ id ∈ i.menuItemId, P ⟨i.businessId, .menuItem, id⟩) ∧
      ∀ a ∈ i.addOnsSnapshot, P ⟨i.businessId, .addOn, a.addOnId⟩ := by
  simp only [references, List.forall_mem_append, forall_refers, Option.mem_toList, Option.mem_def,
    List.forall_mem_map]

theorem owns_insert {α : Type} [Keyed α Uuid] {rows : Table α} {owner : α → Uuid} {row : α}
    {id b : Uuid} (h : (rows.lookup id).map owner = some b) :
    ((rows.insert row).lookup id).map owner = some b := by
  obtain ⟨row', hrow', hb⟩ := Option.map_eq_some_iff.mp h
  simp [Table.lookup_insert_of_some hrow', hb]

theorem owns_modify {α : Type} [Keyed α Uuid] {rows : Table α} {owner : α → Uuid} {set : α → α}
    {k id : Uuid} (hkey : ∀ r, key (set r) = key r) (howner : ∀ r, owner (set r) = owner r) :
    ((rows.modify k set).lookup id).map owner = (rows.lookup id).map owner := by
  rw [Table.lookup_modify hkey]
  split
  next h => simp [h, Function.comp_def, howner]
  next => rfl

end NextgenBackend
