import NextgenBackend.Library.Lockstep
import NextgenBackend.Library.Run
import NextgenBackend.Tenancy.SoldReferences

namespace NextgenBackend.Tenancy

open Txn Inventory

section Requests

inductive TenantRequest where
  | createItem (user : AuthUser) (itemId : Uuid) (body : RoutesMenu.ItemCreate)
  | updateItem (user : AuthUser) (itemId : Uuid) (body : RoutesMenu.ItemUpdate)
  | attachAddOn (user : AuthUser) (itemId addOnId : Uuid)
  | upsertRecipe (user : AuthUser) (recipeId : Uuid) (body : RoutesRecipes.RecipeUpsertRequest)
  | createGoodsReceipt (user : AuthUser) (receiptId : Uuid)
      (body : RoutesInventory.GoodsReceiptCreateRequest)
  | setOpeningStock (user : AuthUser) (body : RoutesInventory.OpeningStockRequest)
  | createAdjustment (user : AuthUser) (body : RoutesInventory.AdjustmentRequest)
  | recordWastage (user : AuthUser) (entryId : Uuid) (body : RoutesWastage.WastageCreateRequest)
  | upsertMapping (user : AuthUser) (mappingId : Uuid)
      (body : RoutesExternalOrders.MappingCreateRequest)
  | createPosOrder (user : AuthUser) (orderId newCustomerId : Uuid)
      (body : RoutesPos.POSOrderCreateRequest)

inductive TenantReply where
  | item (item : MenuItem)
  | attached
  | recipe (response : RoutesRecipes.RecipeResponse)
  | receipt (response : RoutesInventory.GoodsReceiptResponse)
  | movement (movement : StockMovement)
  | wastage (response : RoutesWastage.WastageResponse)
  | mapping (response : RoutesExternalOrders.MappingResponse)
  | order (order : Order)

def answer {α : Type} (wrap : α → TenantReply) (handler : Handler α) : Handler TenantReply :=
  handler.bind fun a => .done (wrap a)

def handle (settings : RoutesMenu.StorageSettings) : TenantRequest → Handler TenantReply
  | .createItem user itemId body =>
      answer .item (RoutesMenu.createItem settings user itemId body)
  | .updateItem user itemId body =>
      answer .item (RoutesMenu.updateItem settings user itemId body)
  | .attachAddOn user itemId addOnId =>
      answer (fun _ => .attached) (RoutesMenu.attachAddOn user itemId addOnId)
  | .upsertRecipe user recipeId body =>
      answer .recipe (RoutesRecipes.upsertRecipe user recipeId body)
  | .createGoodsReceipt user receiptId body =>
      answer .receipt (RoutesInventory.createGoodsReceipt user receiptId body)
  | .setOpeningStock user body => answer .movement (RoutesInventory.setOpeningStock user body)
  | .createAdjustment user body => answer .movement (RoutesInventory.createAdjustment user body)
  | .recordWastage user entryId body =>
      answer .wastage (RoutesWastage.recordWastage user entryId body)
  | .upsertMapping user mappingId body =>
      answer .mapping (RoutesExternalOrders.upsertMapping user mappingId body)
  | .createPosOrder user orderId newCustomerId body =>
      answer .order (RoutesPos.createPosOrder user orderId newCustomerId body)

def TenantRequest.user : TenantRequest → AuthUser
  | .createItem user _ _ | .updateItem user _ _ | .attachAddOn user _ _ | .upsertRecipe user _ _
  | .createGoodsReceipt user _ _ | .setOpeningStock user _ | .createAdjustment user _
  | .recordWastage user _ _ | .upsertMapping user _ _ | .createPosOrder user _ _ _ => user

def called (resource : Resource) (ids : List Uuid) : List (Resource × Uuid) :=
  ids.map fun id => (resource, id)

-- The ids that a client puts in the path and in the body.
def TenantRequest.names : TenantRequest → List (Resource × Uuid)
  | .createItem _ _ body =>
      called .asset body.imageAssetId.toList ++ called .category body.categoryId.toList
  | .updateItem _ itemId body =>
      called .menuItem [itemId] ++ called .category body.categoryId.join.toList ++
        called .asset body.imageAssetId.join.toList
  | .attachAddOn _ itemId addOnId => called .menuItem [itemId] ++ called .addOn [addOnId]
  | .upsertRecipe _ _ body =>
      called .menuItem body.menuItemId.toList ++ called .addOn body.menuAddOnId.toList ++
        called .ingredient (body.items.map (·.ingredientId))
  | .createGoodsReceipt _ _ body =>
      called .ingredient (body.lines.map (·.ingredientId)) ++
        called .supplier body.supplierId.toList
  | .setOpeningStock _ body => called .ingredient [body.ingredientId]
  | .createAdjustment _ body => called .ingredient [body.ingredientId]
  | .recordWastage _ _ body =>
      called .ingredient [body.ingredientId] ++ called .asset body.photoAssetId.toList ++
        called .order body.relatedOrderId.toList
  | .upsertMapping _ _ body =>
      called .menuItem body.menuItemId.toList ++ called .addOn body.menuAddOnId.toList
  | .createPosOrder _ _ _ body =>
      called .menuItem (body.items.map (·.menuItemId)) ++
        called .addOn (body.items.flatMap fun item => item.addOnSelections.map (·.addOnId)) ++
        called .reward body.loyaltyRewardId.toList ++
        called .intent ((body.payments.getD []).filterMap (·.paymentIntentId))

section Renaming

variable (σ : Resource → Uuid → Uuid)

def renameItem (item : Pos.POSItemInput) : Pos.POSItemInput :=
  { item with
    menuItemId := σ .menuItem item.menuItemId
    addOnSelections := item.addOnSelections.map fun s => { s with addOnId := σ .addOn s.addOnId } }

def renamePayment (p : RoutesPos.POSPaymentAllocationRequest) :
    RoutesPos.POSPaymentAllocationRequest :=
  { p with
    paymentIntentId := p.paymentIntentId.map (σ .intent)
    linkNamed := fun h => by simpa using p.linkNamed h
    linkScoped := fun h => by simpa using p.linkScoped h }

def renameCheckout (body : RoutesPos.POSOrderCreateRequest) : RoutesPos.POSOrderCreateRequest :=
  { body with
    items := body.items.map (renameItem σ)
    loyaltyRewardId := body.loyaltyRewardId.map (σ .reward)
    payments := body.payments.map (List.map (renamePayment σ))
    itemsNonempty := by simpa using body.itemsNonempty
    quantities := by simpa [renameItem] using body.quantities
    paymentsNonempty := by simpa using body.paymentsNonempty
    onePaymentShape := by simpa using body.onePaymentShape
    redemptionKeyed := by simpa using body.redemptionKeyed }

def renameReceipt (body : RoutesInventory.GoodsReceiptCreateRequest) :
    RoutesInventory.GoodsReceiptCreateRequest :=
  { body with
    lines := body.lines.map fun l => { l with ingredientId := σ .ingredient l.ingredientId }
    supplierId := body.supplierId.map (σ .supplier)
    linesNonempty := by simpa using body.linesNonempty }

def TenantRequest.rename : TenantRequest → TenantRequest
  | .createItem user itemId body => .createItem user itemId
      { body with
        categoryId := body.categoryId.map (σ .category)
        imageAssetId := body.imageAssetId.map (σ .asset) }
  | .updateItem user itemId body => .updateItem user (σ .menuItem itemId)
      { body with
        categoryId := body.categoryId.map (Option.map (σ .category))
        imageAssetId := body.imageAssetId.map (Option.map (σ .asset)) }
  | .attachAddOn user itemId addOnId =>
      .attachAddOn user (σ .menuItem itemId) (σ .addOn addOnId)
  | .upsertRecipe user recipeId body => .upsertRecipe user recipeId
      { body with
        menuItemId := body.menuItemId.map (σ .menuItem)
        menuAddOnId := body.menuAddOnId.map (σ .addOn)
        items := body.items.map fun item =>
          { item with ingredientId := σ .ingredient item.ingredientId } }
  | .createGoodsReceipt user receiptId body =>
      .createGoodsReceipt user receiptId (renameReceipt σ body)
  | .setOpeningStock user body =>
      .setOpeningStock user { body with ingredientId := σ .ingredient body.ingredientId }
  | .createAdjustment user body =>
      .createAdjustment user { body with ingredientId := σ .ingredient body.ingredientId }
  | .recordWastage user entryId body => .recordWastage user entryId
      { body with
        ingredientId := σ .ingredient body.ingredientId
        photoAssetId := body.photoAssetId.map (σ .asset)
        relatedOrderId := body.relatedOrderId.map (σ .order) }
  | .upsertMapping user mappingId body => .upsertMapping user mappingId
      { body with
        menuItemId := body.menuItemId.map (σ .menuItem)
        menuAddOnId := body.menuAddOnId.map (σ .addOn) }
  | .createPosOrder user orderId newCustomerId body =>
      .createPosOrder user orderId newCustomerId (renameCheckout σ body)

end Renaming

def replacing (resource : Resource) (id id' : Uuid) : Resource → Uuid → Uuid :=
  fun r x => if r = resource ∧ x = id then id' else x

variable {settings : RoutesMenu.StorageSettings} {db : Database}

theorem safe_answer {α : Type} {wrap : α → TenantReply} {x : Handler α} (h : Safe db x) :
    Safe db (answer wrap x) := by
  refine Txn.ensures_bind.mpr (h.mono fun r db' hanchored => ?_)
  cases r <;> exact hanchored

theorem handle_safe {request : TenantRequest} (href : OwnReferences db.toTables) :
    Safe db (handle settings request) := by
  cases request with
  | createItem user itemId body => exact safe_answer (createItem_safe href)
  | updateItem user itemId body => exact safe_answer (updateItem_safe href)
  | attachAddOn user itemId addOnId => exact safe_answer (attachAddOn_safe href)
  | upsertRecipe user recipeId body => exact safe_answer (upsertRecipe_safe href)
  | createGoodsReceipt user receiptId body => exact safe_answer (createGoodsReceipt_safe href)
  | setOpeningStock user body => exact safe_answer (setOpeningStock_safe href)
  | createAdjustment user body => exact safe_answer (createAdjustment_safe href)
  | recordWastage user entryId body => exact safe_answer (recordWastage_safe href)
  | upsertMapping user mappingId body => exact safe_answer (upsertMapping_safe href)
  | createPosOrder user orderId newCustomerId body => exact safe_answer (createPosOrder_safe href)

def served (settings : RoutesMenu.StorageSettings) (db : Database) (request : TenantRequest)
    (db' : Database) : Prop :=
  ((handle settings request).run db).2 = db'

theorem run_own {steps : List (TenantRequest × Database)} (href : OwnReferences db.toTables)
    (hrun : Run.Along (served settings) db steps) :
    OwnReferences (Run.last db steps).toTables := by
  apply Run.Along.invariant (I := fun db => OwnReferences db.toTables) hrun href
  rintro db request db' href rfl
  exact (handle_safe href).own

end Requests

section ForeignIds

-- The same status and error code: the message may repeat the id that was sent.
def SameKind : Failure → Failure → Prop
  | .app e, .app e' => e.code = e'.code ∧ e.statusCode = e'.statusCode
  | e, e' => e = e'

theorem sameKind_refl (e : Failure) : SameKind e e := by
  cases e <;> simp [SameKind]

-- Only an id that is not one of the business's own is renamed, and to no id of its own.
def Masks (t : Tables) (businessId : Uuid) (σ : Resource → Uuid → Uuid) : Prop :=
  ∀ resource id, σ resource id = id ∨
    ¬ t.Owns ⟨businessId, resource, id⟩ ∧ ¬ t.Owns ⟨businessId, resource, σ resource id⟩

variable {α β γ : Type} {db : Database} {user : AuthUser} {businessId : Uuid} {resource : Resource}
  {σ : Resource → Uuid → Uuid} {id : Uuid} {ids : List Uuid}

def Twin (P : α → β → Prop) (x : Handler α) (y : Handler β) (db : Database) : Prop :=
  Lockstep SameKind P x y db

section Masked

variable (hσ : Masks db.toTables businessId σ)

include hσ

theorem Masks.fixed (h : db.Owns ⟨businessId, resource, id⟩) : σ resource id = id :=
  (hσ resource id).resolve_right fun hnot => hnot.1 h

theorem Masks.owns : db.Owns ⟨businessId, resource, σ resource id⟩ ↔
    db.Owns ⟨businessId, resource, id⟩ := by
  rcases hσ resource id with h | ⟨h, h'⟩
  · rw [h]
  · exact iff_of_false h' h

theorem Masks.map_fixed (h : ∀ id ∈ ids, db.Owns ⟨businessId, resource, id⟩) :
    ids.map (σ resource) = ids := by
  rw [List.map_congr_left fun id hid => hσ.fixed (h id hid)]
  exact List.map_id' ids

theorem Masks.mem_map (h : db.Owns ⟨businessId, resource, id⟩) :
    id ∈ ids.map (σ resource) ↔ id ∈ ids := by
  constructor
  · intro hmem
    obtain ⟨id', hid', rfl⟩ := List.mem_map.mp hmem
    rwa [hσ.fixed (hσ.owns.mp h)]
  · exact fun hmem => List.mem_map.mpr ⟨id, hmem, hσ.fixed h⟩

theorem Masks.lookup_filter [Keyed γ Uuid] {rows : Table γ} {owner : γ → Uuid} {p : γ → Bool}
    (howner : ∀ id, db.owner resource id = (rows.lookup id).map owner)
    (hp : ∀ row, p row = true → owner row = businessId) :
    (rows.lookup (σ resource id)).filter p = (rows.lookup id).filter p := by
  have hnone (x : Uuid) (hx : ¬ db.Owns ⟨businessId, resource, x⟩) :
      (rows.lookup x).filter p = none := by
    apply Option.eq_none_iff_forall_ne_some.mpr
    intro row hrow
    exact hx ((howner x).trans (owns_of_filter hrow (hp row)))
  rcases hσ resource id with h | ⟨h, h'⟩
  · rw [h]
  · rw [hnone _ h, hnone _ h']

end Masked

section Twins

variable {P : β → γ → Prop}

theorem twin_seq {x : Handler α} {f : α → Handler β} {g : α → Handler γ}
    (hx : x.ReadOnly fun _ => True) (hf : ∀ a, Twin P (f a) (g a) db) :
    Twin P (x.bind f) (x.bind g) db :=
  lockstep_seq sameKind_refl hx hf

theorem twin_same {x : Handler α} {R : α → Prop} (hx : x.Yields db R) :
    Twin (fun a b => a = b ∧ R a) x x db :=
  lockstep_same sameKind_refl hx

theorem sameKind_notFound {label : String} {id id' : Uuid} :
    SameKind (.app (notFoundError label (some id))) (.app (notFoundError label (some id'))) :=
  ⟨rfl, rfl⟩

theorem twin_found [Keyed α Uuid] {rows : Table α} {owner : α → Uuid} {p : α → Bool}
    {e e' : AppError} {x y : Handler (Option α)} {f : α → Handler β} {g : α → Handler γ}
    (howner : ∀ id, db.owner resource id = (rows.lookup id).map owner)
    (hp : ∀ row, p row = true → owner row = businessId) (he : SameKind (.app e) (.app e'))
    (hxy : Twin (fun row row' => row' = row ∧ row = (rows.lookup id).filter p) x y db)
    (hf : ∀ row, db.Owns ⟨businessId, resource, id⟩ → Twin P (f row) (g row) db) :
    Twin P (x.bind fun row => (found e row).bind f) (y.bind fun row => (found e' row).bind g)
      db := by
  refine lockstep_bind hxy fun row row' h => ?_
  obtain ⟨rfl, hrow⟩ := h
  refine lockstep_bind (lockstep_orFail (P := fun a b => a = b ∧ row' = some a) rfl he
    fun a ha => ⟨rfl, ha⟩) fun a b h => ?_
  obtain ⟨rfl, ha⟩ := h
  exact hf a ((howner id).trans (owns_of_filter (hrow.symm.trans ha) (hp a)))

-- A row that is looked up by an id of the client, within the business of the client.
theorem twin_scoped [Keyed α Uuid] {rows : Database → Table α} {owner : α → Uuid} {p : α → Bool}
    {e e' : AppError} {f : α → Handler β} {g : α → Handler γ}
    (hσ : Masks db.toTables businessId σ)
    (howner : ∀ id, db.owner resource id = ((rows db).lookup id).map owner)
    (hp : ∀ row, p row = true → owner row = businessId) (he : SameKind (.app e) (.app e'))
    (hf : ∀ row, db.Owns ⟨businessId, resource, id⟩ → Twin P (f row) (g row) db) :
    Twin P ((Txn.read fun db => ((rows db).lookup id).filter p).bind fun row =>
        (found e row).bind f)
      ((Txn.read fun db => ((rows db).lookup (σ resource id)).filter p).bind fun row =>
        (found e' row).bind g) db :=
  twin_found howner hp he (lockstep_read ⟨hσ.lookup_filter howner hp, rfl⟩) hf

theorem twin_requireOwned [Keyed α Uuid] {rows : Database → Table α} {owner : α → Uuid}
    {p : α → Bool} {label : String} {f : α → Handler β} {g : α → Handler γ}
    (hσ : Masks db.toTables businessId σ)
    (howner : ∀ id, db.owner resource id = ((rows db).lookup id).map owner)
    (hp : ∀ row, p row = true → owner row = businessId)
    (hf : ∀ row, db.Owns ⟨businessId, resource, id⟩ → Twin P (f row) (g row) db) :
    Twin P ((requireOwned rows p label id).bind f)
      ((requireOwned rows p label (σ resource id)).bind g) db := by
  simp only [requireOwned, bind_eq, Txn.bind_assoc]
  exact twin_scoped hσ howner hp sameKind_notFound hf

-- The checks of an id that the body may leave out.
theorem twin_require [Keyed α Uuid] {check : Option Uuid → Handler Unit}
    {rows : Database → Table α} {owner : α → Uuid} {p : α → Bool} {label : String}
    {target : Option Uuid} {f : Unit → Handler β} {g : Unit → Handler γ}
    (hσ : Masks db.toTables businessId σ) (hnone : check none = .done ())
    (hsome : ∀ id, check (some id) = (Txn.read fun db => ((rows db).lookup id).filter p).bind
      fun row => (found (notFoundError label (some id)) row).bind fun _ => .done ())
    (howner : ∀ id, db.owner resource id = ((rows db).lookup id).map owner)
    (hp : ∀ row, p row = true → owner row = businessId)
    (hf : (∀ id ∈ target, db.Owns ⟨businessId, resource, id⟩) → Twin P (f ()) (g ()) db) :
    Twin P ((check target).bind f) ((check (target.map (σ resource))).bind g) db := by
  cases target with
  | none =>
      rw [Option.map_none, hnone]
      exact hf (by simp)
  | some id =>
      simp only [Option.map_some, hsome, Txn.bind_assoc]
      refine twin_scoped hσ howner hp sameKind_notFound fun row h => ?_
      exact hf fun id' hid => Option.some.inj hid ▸ h

end Twins

section Checks

variable {P : β → γ → Prop} (hσ : Masks db.toTables businessId σ)

include hσ

theorem twin_resolveItemImage {settings : RoutesMenu.StorageSettings}
    {imageAssetId : Option Uuid} {f : Option (String × Asset) → Handler β}
    {g : Option (String × Asset) → Handler γ}
    (hf : ∀ image, (∀ id ∈ imageAssetId, db.Owns ⟨businessId, .asset, id⟩) →
      Twin P (f image) (g image) db) :
    Twin P ((RoutesMenu.resolveItemImage settings businessId imageAssetId).bind f)
      ((RoutesMenu.resolveItemImage settings businessId
        (imageAssetId.map (σ .asset))).bind g) db := by
  cases imageAssetId with
  | none => exact hf none (by simp)
  | some id =>
      simp only [Option.map_some, RoutesMenu.resolveItemImage, bind_eq, Txn.bind_assoc]
      refine twin_scoped hσ (fun _ => rfl) (fun row h => of_decide_eq_true h)
        ⟨rfl, rfl⟩ fun row h => ?_
      exact hf _ fun id' hid => Option.some.inj hid ▸ h

theorem twin_loadIngredient {f : Ingredient → Handler β} {g : Ingredient → Handler γ}
    (hf : ∀ ingredient, db.Owns ⟨businessId, .ingredient, id⟩ →
      Twin P (f ingredient) (g ingredient) db) :
    Twin P ((RoutesInventory.loadIngredient businessId id).bind f)
      ((RoutesInventory.loadIngredient businessId (σ .ingredient id)).bind g) db := by
  simp only [RoutesInventory.loadIngredient, bind_eq, Txn.bind_assoc]
  exact twin_scoped hσ (fun _ => rfl) (fun row h => (of_decide_eq_true h).1) sameKind_notFound hf

end Checks

section Handlers

variable {settings : RoutesMenu.StorageSettings}

def NamesOwn (db : Database) (request : TenantRequest) : Prop :=
  ∀ name ∈ request.names, db.Owns ⟨request.user.businessId, name.1, name.2⟩

theorem forall_called {P : Resource × Uuid → Prop} :
    (∀ name ∈ called resource ids, P name) ↔ ∀ id ∈ ids, P (resource, id) := by
  simp [called]

theorem createItem_twin {itemId : Uuid} {body : RoutesMenu.ItemCreate}
    (hσ : Masks db.toTables user.businessId σ)
    (hnot : ¬ NamesOwn db (.createItem user itemId body)) :
    Twin Eq (handle settings (.createItem user itemId body))
      (handle settings ((TenantRequest.createItem user itemId body).rename σ)) db := by
  simp only [NamesOwn, TenantRequest.names, List.forall_mem_append, forall_called,
    Option.mem_toList] at hnot
  simp only [handle, answer, TenantRequest.rename, RoutesMenu.createItem, bind_eq, Txn.bind_assoc]
  refine twin_seq readOnly_requireOwnerOrManager fun _ => ?_
  refine twin_resolveItemImage hσ fun image himage => ?_
  refine twin_require hσ rfl (fun _ => rfl) (fun _ => rfl) (fun row h => of_decide_eq_true h)
    fun hcategory => ?_
  exact absurd ⟨himage, hcategory⟩ hnot

theorem updateItem_twin {itemId : Uuid} {body : RoutesMenu.ItemUpdate}
    (hσ : Masks db.toTables user.businessId σ)
    (hnot : ¬ NamesOwn db (.updateItem user itemId body)) :
    Twin Eq (handle settings (.updateItem user itemId body))
      (handle settings ((TenantRequest.updateItem user itemId body).rename σ)) db := by
  have hjoin (p : RoutesMenu.Patch Uuid) (f : Uuid → Uuid) :
      Option.join (p.map (Option.map f)) = p.join.map f := by
    cases p <;> rfl
  simp only [NamesOwn, TenantRequest.names, List.forall_mem_append, forall_called,
    Option.mem_toList, List.forall_mem_singleton] at hnot
  simp only [handle, answer, TenantRequest.rename, RoutesMenu.updateItem, bind_eq, Txn.bind_assoc,
    hjoin]
  refine twin_seq readOnly_requireOwnerOrManager fun _ => ?_
  refine twin_requireOwned hσ (fun _ => rfl) (fun row h => (of_decide_eq_true h).1)
    fun item hitem => ?_
  refine twin_require hσ rfl (fun _ => rfl) (fun _ => rfl) (fun row h => of_decide_eq_true h)
    fun hcategory => ?_
  refine twin_resolveItemImage hσ fun image himage => ?_
  exact absurd ⟨⟨hitem, hcategory⟩, himage⟩ hnot

theorem attachAddOn_twin {itemId addOnId : Uuid} (hσ : Masks db.toTables user.businessId σ)
    (hnot : ¬ NamesOwn db (.attachAddOn user itemId addOnId)) :
    Twin Eq (handle settings (.attachAddOn user itemId addOnId))
      (handle settings ((TenantRequest.attachAddOn user itemId addOnId).rename σ)) db := by
  simp only [NamesOwn, TenantRequest.names, List.forall_mem_append, forall_called,
    List.forall_mem_singleton] at hnot
  simp only [handle, answer, TenantRequest.rename, RoutesMenu.attachAddOn, bind_eq, Txn.bind_assoc]
  refine twin_seq readOnly_requireOwnerOrManager fun _ => ?_
  refine twin_requireOwned hσ (fun _ => rfl) (fun row h => (of_decide_eq_true h).1)
    fun item hitem => ?_
  refine twin_requireOwned hσ (fun _ => rfl) (fun row h => (of_decide_eq_true h).1)
    fun addOn haddOn => ?_
  exact absurd ⟨hitem, haddOn⟩ hnot

theorem setOpeningStock_twin {body : RoutesInventory.OpeningStockRequest}
    (hσ : Masks db.toTables user.businessId σ)
    (hnot : ¬ NamesOwn db (.setOpeningStock user body)) :
    Twin Eq (handle settings (.setOpeningStock user body))
      (handle settings ((TenantRequest.setOpeningStock user body).rename σ)) db := by
  simp only [NamesOwn, TenantRequest.names, forall_called, List.forall_mem_singleton] at hnot
  simp only [handle, answer, TenantRequest.rename, RoutesInventory.setOpeningStock, bind_eq,
    Txn.bind_assoc]
  refine twin_seq readOnly_requireOwnerOrManager fun _ => ?_
  refine twin_seq RoutesInventory.readOnly_requireInventoryEnabled fun _ => ?_
  exact twin_loadIngredient hσ fun ingredient h => (hnot h).elim

theorem createAdjustment_twin {body : RoutesInventory.AdjustmentRequest}
    (hσ : Masks db.toTables user.businessId σ)
    (hnot : ¬ NamesOwn db (.createAdjustment user body)) :
    Twin Eq (handle settings (.createAdjustment user body))
      (handle settings ((TenantRequest.createAdjustment user body).rename σ)) db := by
  simp only [NamesOwn, TenantRequest.names, forall_called, List.forall_mem_singleton] at hnot
  simp only [handle, answer, TenantRequest.rename, RoutesInventory.createAdjustment, bind_eq,
    Txn.bind_assoc]
  refine twin_seq readOnly_requireOwnerOrManager fun _ => ?_
  refine twin_seq RoutesInventory.readOnly_requireInventoryEnabled fun _ => ?_
  exact twin_loadIngredient hσ fun ingredient h => (hnot h).elim

theorem recordWastage_twin {entryId : Uuid} {body : RoutesWastage.WastageCreateRequest}
    (hσ : Masks db.toTables user.businessId σ)
    (hnot : ¬ NamesOwn db (.recordWastage user entryId body)) :
    Twin Eq (handle settings (.recordWastage user entryId body))
      (handle settings ((TenantRequest.recordWastage user entryId body).rename σ)) db := by
  simp only [NamesOwn, TenantRequest.names, List.forall_mem_append, forall_called,
    Option.mem_toList, List.forall_mem_singleton] at hnot
  simp only [handle, answer, TenantRequest.rename, RoutesWastage.recordWastage, bind_eq,
    Txn.bind_assoc]
  refine twin_seq readOnly_requireStaffOrAbove fun _ => ?_
  refine twin_seq RoutesInventory.readOnly_requireInventoryEnabled fun _ => ?_
  refine twin_loadIngredient hσ fun ingredient hingredient => ?_
  refine twin_seq RoutesInventory.readOnly_convert fun quantityMilli => ?_
  refine twin_seq readOnly_ensure fun _ => ?_
  refine twin_require hσ rfl (fun _ => rfl) (fun _ => rfl) (fun row h => of_decide_eq_true h)
    fun hasset => ?_
  refine twin_require hσ rfl (fun _ => rfl) (fun _ => rfl) (fun row h => of_decide_eq_true h)
    fun horder => ?_
  exact absurd ⟨⟨hingredient, hasset⟩, horder⟩ hnot

theorem checkTarget_rename {body : RoutesExternalOrders.MappingCreateRequest} :
    RoutesExternalOrders.checkTarget
        { body with
          menuItemId := body.menuItemId.map (σ .menuItem)
          menuAddOnId := body.menuAddOnId.map (σ .addOn) } =
      RoutesExternalOrders.checkTarget body := by
  simp [RoutesExternalOrders.checkTarget]

theorem upsertMapping_twin {mappingId : Uuid} {body : RoutesExternalOrders.MappingCreateRequest}
    (hσ : Masks db.toTables user.businessId σ)
    (hnot : ¬ NamesOwn db (.upsertMapping user mappingId body)) :
    Twin Eq (handle settings (.upsertMapping user mappingId body))
      (handle settings ((TenantRequest.upsertMapping user mappingId body).rename σ)) db := by
  simp only [NamesOwn, TenantRequest.names, List.forall_mem_append, forall_called,
    Option.mem_toList] at hnot
  simp only [handle, answer, TenantRequest.rename, RoutesExternalOrders.upsertMapping, bind_eq,
    Txn.bind_assoc, checkTarget_rename]
  refine twin_seq readOnly_requireOwnerOrManager fun _ => ?_
  refine twin_seq readOnly_loadBusiness fun business => ?_
  refine twin_seq readOnly_ensure fun _ => ?_
  refine twin_seq Pos.readOnly_raiseError fun _ => ?_
  refine twin_require hσ rfl (fun _ => rfl) (fun _ => rfl) (fun row h => of_decide_eq_true h)
    fun hitem => ?_
  refine twin_require hσ rfl (fun _ => rfl) (fun _ => rfl) (fun row h => of_decide_eq_true h)
    fun haddOn => ?_
  exact absurd ⟨hitem, haddOn⟩ hnot

end Handlers

section Listed

def unknownIds (ingredients : List Ingredient) (ids : List Uuid) : List Uuid :=
  ids.filter fun id => ∀ i ∈ ingredients, i.id ≠ id

variable {ingredients : List Ingredient}
  (hσ : Masks db.toTables businessId σ)
  (hingredients : ∀ i ∈ ingredients, db.Owns ⟨businessId, .ingredient, i.id⟩)

include hingredients

theorem owns_of_known (h : unknownIds ingredients ids = []) :
    ∀ id ∈ ids, db.Owns ⟨businessId, .ingredient, id⟩ := by
  intro id hid
  have hknown := List.filter_eq_nil_iff.mp h id hid
  simp only [ne_eq, decide_eq_true_eq, not_forall, not_not] at hknown
  obtain ⟨i, hi, rfl⟩ := hknown
  exact hingredients i hi

include hσ

theorem unknown_rename :
    unknownIds ingredients (ids.map (σ .ingredient)) = [] ↔ unknownIds ingredients ids = [] := by
  constructor
  · intro h
    have howns := owns_of_known hingredients h
    have hfixed : ids.map (σ .ingredient) = ids := by
      refine hσ.map_fixed fun id hid => hσ.owns.mp (howns _ (List.mem_map_of_mem hid))
    rwa [hfixed] at h
  · intro h
    rwa [hσ.map_fixed (owns_of_known hingredients h)]

theorem twin_known {e e' : AppError} {f : Unit → Handler α} {g : Unit → Handler β}
    {P : α → β → Prop} (he : SameKind (.app e) (.app e'))
    (hf : unknownIds ingredients ids = [] → Twin P (f ()) (g ()) db) :
    Twin P ((ensure (unknownIds ingredients ids = []) e).bind f)
      ((ensure (unknownIds ingredients (ids.map (σ .ingredient)) = []) e').bind g) db := by
  refine lockstep_bind (lockstep_require (P := fun _ _ => unknownIds ingredients ids = [])
    (unknown_rename hσ hingredients) he fun h => h) fun _ _ h => ?_
  exact hf h

end Listed

section Lists

variable {settings : RoutesMenu.StorageSettings}

theorem own_loaded {ids : List Uuid} :
    ∀ i ∈ db.ingredients.filter (fun i => i.businessId = businessId ∧ i.id ∈ ids),
      db.Owns ⟨businessId, .ingredient, i.id⟩ := by
  intro i hi
  obtain ⟨hmem, hkept⟩ := List.mem_filter.mp hi
  obtain ⟨hbusiness, -⟩ := of_decide_eq_true hkept
  exact hbusiness ▸ owns_ingredient hmem

theorem twin_loadIngredients (hσ : Masks db.toTables businessId σ) :
    Twin (fun a b => a = b ∧ ∀ i ∈ a, db.Owns ⟨businessId, .ingredient, i.id⟩)
      (RoutesRecipes.loadIngredients businessId ids)
      (RoutesRecipes.loadIngredients businessId (ids.map (σ .ingredient))) db := by
  unfold RoutesRecipes.loadIngredients
  simp only [List.map_eq_nil_iff]
  split
  · exact lockstep_done ⟨rfl, by simp⟩
  · refine lockstep_read ⟨?_, own_loaded⟩
    refine List.filter_congr fun i hi => ?_
    by_cases hbusiness : i.businessId = businessId
    · have howns : db.Owns ⟨businessId, .ingredient, i.id⟩ := hbusiness ▸ owns_ingredient hi
      simp [hbusiness, hσ.mem_map howns]
    · simp [hbusiness]

def renameParent (σ : Resource → Uuid → Uuid) :
    RoutesRecipes.RecipeParent → RoutesRecipes.RecipeParent
  | .menuItem id => .menuItem (σ .menuItem id)
  | .menuAddOn id => .menuAddOn (σ .addOn id)

theorem recipeParent_rename {body : RoutesRecipes.RecipeUpsertRequest}
    {items : List RoutesRecipes.RecipeItemRequest} :
    RoutesRecipes.recipeParent
        { body with
          menuItemId := body.menuItemId.map (σ .menuItem)
          menuAddOnId := body.menuAddOnId.map (σ .addOn)
          items := items } =
      (RoutesRecipes.recipeParent body).map (renameParent σ) := by
  unfold RoutesRecipes.recipeParent
  cases body.menuItemId <;> cases body.menuAddOnId <;> rfl

theorem twin_requireParent {parent : RoutesRecipes.RecipeParent} {f : Unit → Handler α}
    {g : Unit → Handler β} {P : α → β → Prop} (hσ : Masks db.toTables businessId σ)
    (hf : db.Owns (parentReference businessId parent) → Twin P (f ()) (g ()) db) :
    Twin P ((RoutesRecipes.requireParent businessId parent).bind f)
      ((RoutesRecipes.requireParent businessId (renameParent σ parent)).bind g) db := by
  cases parent with
  | menuItem id =>
      simp only [renameParent, RoutesRecipes.requireParent, bind_eq, Txn.bind_assoc]
      exact twin_requireOwned hσ (fun _ => rfl) (fun row h => of_decide_eq_true h) fun _ h => hf h
  | menuAddOn id =>
      simp only [renameParent, RoutesRecipes.requireParent, bind_eq, Txn.bind_assoc]
      exact twin_requireOwned hσ (fun _ => rfl) (fun row h => of_decide_eq_true h) fun _ h => hf h

theorem upsertRecipe_twin {recipeId : Uuid} {body : RoutesRecipes.RecipeUpsertRequest}
    (hσ : Masks db.toTables user.businessId σ)
    (hnot : ¬ NamesOwn db (.upsertRecipe user recipeId body)) :
    Twin Eq (handle settings (.upsertRecipe user recipeId body))
      (handle settings ((TenantRequest.upsertRecipe user recipeId body).rename σ)) db := by
  have hids : (body.items.map fun item =>
      { item with ingredientId := σ .ingredient item.ingredientId }).map (·.ingredientId) =
      (body.items.map (·.ingredientId)).map (σ .ingredient) := by
    simp [List.map_map, Function.comp_def]
  simp only [NamesOwn, TenantRequest.names, List.forall_mem_append, forall_called,
    Option.mem_toList] at hnot
  simp only [handle, answer, TenantRequest.rename, RoutesRecipes.upsertRecipe, bind_eq,
    Txn.bind_assoc, recipeParent_rename, hids]
  refine twin_seq readOnly_requireOwnerOrManager fun _ => ?_
  refine twin_seq RoutesInventory.readOnly_requireInventoryEnabled fun _ => ?_
  cases hparent : RoutesRecipes.recipeParent body with
  | none => exact lockstep_fail (sameKind_refl _)
  | some parent =>
      refine twin_requireParent hσ fun hown => ?_
      refine lockstep_bind (twin_loadIngredients hσ) fun ingredients _ h => ?_
      obtain ⟨rfl, hingredients⟩ := h
      refine twin_known hσ hingredients ⟨rfl, rfl⟩ fun hknown => ?_
      exact absurd ⟨recipeParent_owns hparent hown, owns_of_known hingredients hknown⟩ hnot

theorem twin_receivedIngredients {f g : List Ingredient → Handler α} {P : α → α → Prop}
    (hσ : Masks db.toTables businessId σ)
    (hf : ∀ ingredients, (∀ i ∈ ingredients, db.Owns ⟨businessId, .ingredient, i.id⟩) →
      Twin P (f ingredients) (g ingredients) db) :
    Twin P
      ((Txn.read fun db => db.ingredients.filter fun i =>
        i.businessId = businessId ∧ i.id ∈ ids ∧ ¬ i.isDeleted).bind f)
      ((Txn.read fun db => db.ingredients.filter fun i =>
        i.businessId = businessId ∧ i.id ∈ ids.map (σ .ingredient) ∧ ¬ i.isDeleted).bind g) db := by
  refine lockstep_bind (lockstep_read (P := fun a b => b = a ∧
    ∀ i ∈ a, db.Owns ⟨businessId, .ingredient, i.id⟩) ⟨?_, fun i hi => ?_⟩) fun a b h => ?_
  · refine List.filter_congr fun i hi => ?_
    by_cases hbusiness : i.businessId = businessId
    · have howns : db.Owns ⟨businessId, .ingredient, i.id⟩ := hbusiness ▸ owns_ingredient hi
      simp [hbusiness, hσ.mem_map howns]
    · simp [hbusiness]
  · obtain ⟨hmem, hkept⟩ := List.mem_filter.mp hi
    obtain ⟨hbusiness, -⟩ := of_decide_eq_true hkept
    exact hbusiness ▸ owns_ingredient hmem
  · obtain ⟨rfl, howns⟩ := h
    exact hf _ howns

theorem createGoodsReceipt_twin {receiptId : Uuid}
    {body : RoutesInventory.GoodsReceiptCreateRequest} (hσ : Masks db.toTables user.businessId σ)
    (hnot : ¬ NamesOwn db (.createGoodsReceipt user receiptId body)) :
    Twin Eq (handle settings (.createGoodsReceipt user receiptId body))
      (handle settings ((TenantRequest.createGoodsReceipt user receiptId body).rename σ)) db := by
  have hids : (renameReceipt σ body).lines.map (·.ingredientId) =
      (body.lines.map (·.ingredientId)).map (σ .ingredient) := by
    simp [renameReceipt, List.map_map, Function.comp_def]
  simp only [NamesOwn, TenantRequest.names, List.forall_mem_append, forall_called,
    Option.mem_toList] at hnot
  simp only [handle, answer, TenantRequest.rename, RoutesInventory.createGoodsReceipt, bind_eq,
    Txn.bind_assoc]
  refine twin_seq readOnly_requireStaffOrAbove fun _ => ?_
  refine twin_seq RoutesInventory.readOnly_requireInventoryEnabled fun _ => ?_
  refine twin_seq readOnly_read fun replayed => ?_
  cases replayed with
  | some response => exact lockstep_done rfl
  | none =>
      simp only [RoutesInventory.receiveGoods, bind_eq, Txn.bind_assoc, hids]
      refine twin_receivedIngredients hσ fun ingredients hingredients => ?_
      refine twin_known hσ hingredients ⟨rfl, rfl⟩ fun hknown => ?_
      refine twin_require hσ rfl (fun _ => rfl) (fun _ => rfl)
        (fun row h => of_decide_eq_true h) fun hsupplier => ?_
      exact absurd ⟨owns_of_known hingredients hknown, hsupplier⟩ hnot

end Lists

end ForeignIds

end NextgenBackend.Tenancy
