import NextgenBackend.Tenancy.References

namespace NextgenBackend.Tenancy

open Fallible (bind_eq_ok)

open Txn Inventory

section Stores

variable {t₀ t : Tables}

theorem owner_congr {t' : Tables} (h : ∀ resource, t'.owner resource = t.owner resource) :
    t'.owner = t.owner :=
  funext h

theorem anchored_appendMovements {movements : List StockMovement} (h : Anchored t₀ t)
    (hnew : ∀ m ∈ movements, ∀ r ∈ m.references, t₀.Owns r) :
    Anchored t₀ (appendMovements movements t) := by
  apply h.aside (owner_congr fun resource => by cases resource <;> rfl)
  exact { h.refer with
    stockMovements := fun m hm => (List.mem_append.mp hm).elim (h.refer.stockMovements m) (hnew m) }

theorem anchored_insertReceipt {receipt : GoodsReceipt} {lines : List GoodsReceiptLine}
    (h : Anchored t₀ t) (hreceipt : ∀ r ∈ receipt.references, t₀.Owns r)
    (hlines : ∀ l ∈ lines, ∀ r ∈ l.references, t₀.Owns r) :
    Anchored t₀ (RoutesInventory.insertReceipt receipt lines t) := by
  apply h.aside (owner_congr fun resource => by cases resource <;> rfl)
  exact { h.refer with
    goodsReceipts := fun g hg => (List.mem_append.mp hg).elim (h.refer.goodsReceipts g) fun hg =>
      List.mem_singleton.mp hg ▸ hreceipt
    goodsReceiptLines := fun l hl =>
      (List.mem_append.mp hl).elim (h.refer.goodsReceiptLines l) (hlines l) }

theorem anchored_insertEntry {entry : WastageEntry} (h : Anchored t₀ t)
    (hentry : ∀ r ∈ entry.references, t₀.Owns r) :
    Anchored t₀ (RoutesWastage.insertEntry entry t) := by
  apply h.aside (owner_congr fun resource => by cases resource <;> rfl)
  exact { h.refer with
    wastageEntries := fun w hw => (List.mem_append.mp hw).elim (h.refer.wastageEntries w) fun hw =>
      List.mem_singleton.mp hw ▸ hentry }

theorem anchored_insertRecipe {recipe : Recipe} (h : Anchored t₀ t)
    (hrecipe : ∀ r ∈ recipe.references, t₀.Owns r) :
    Anchored t₀ (RoutesRecipes.insertRecipe recipe t) := by
  apply h.aside (owner_congr fun resource => by cases resource <;> rfl)
  exact { h.refer with
    recipes := fun r hr => (List.mem_append.mp hr).elim (h.refer.recipes r) fun hr =>
      List.mem_singleton.mp hr ▸ hrecipe }

theorem anchored_insertMapping {mapping : ExternalProductMapping} (h : Anchored t₀ t)
    (hmapping : ∀ r ∈ mapping.references, t₀.Owns r) :
    Anchored t₀ (RoutesExternalOrders.insertMapping mapping t) := by
  apply h.aside (owner_congr fun resource => by cases resource <;> rfl)
  exact { h.refer with
    externalProductMappings := fun m hm =>
      (List.mem_append.mp hm).elim (h.refer.externalProductMappings m) fun hm =>
        List.mem_singleton.mp hm ▸ hmapping }

theorem anchored_setRecipe {recipe : Recipe} {set : Recipe → Recipe} (h : Anchored t₀ t)
    (hpk : t.recipes.PrimaryKey) (hrecipe : recipe ∈ t.recipes)
    (hset : ∀ r ∈ (set recipe).references, t₀.Owns r) :
    Anchored t₀ (RoutesRecipes.setRecipe recipe.id set t) := by
  apply h.aside (owner_congr fun resource => by cases resource <;> rfl)
  refine { h.refer with recipes := fun r hr => ?_ }
  rcases Table.mem_modify_lookup hpk (Table.lookup_of_mem hpk hrecipe) hr with hr | rfl
  · exact h.refer.recipes r hr
  · exact hset

theorem anchored_setMapping {mapping : ExternalProductMapping}
    {set : ExternalProductMapping → ExternalProductMapping} (h : Anchored t₀ t)
    (hpk : t.externalProductMappings.PrimaryKey) (hmapping : mapping ∈ t.externalProductMappings)
    (hset : ∀ r ∈ (set mapping).references, t₀.Owns r) :
    Anchored t₀ (RoutesExternalOrders.setMapping mapping.id set t) := by
  apply h.aside (owner_congr fun resource => by cases resource <;> rfl)
  refine { h.refer with externalProductMappings := fun m hm => ?_ }
  rcases Table.mem_modify_lookup hpk (Table.lookup_of_mem hpk hmapping) hm with hm | rfl
  · exact h.refer.externalProductMappings m hm
  · exact hset

theorem anchored_insertMenuItem {item : MenuItem} (h : Anchored t₀ t)
    (hitem : ∀ r ∈ item.references, t₀.Owns r) :
    Anchored t₀ (RoutesMenu.insertMenuItem item t) where
  keeps := by
    rintro ⟨businessId, resource, id⟩ hr
    have hkept := h.keeps _ hr
    cases resource with
    | menuItem => exact owns_insert hkept
    | _ => exact hkept
  refer := { h.refer with
    menuItems := fun m hm => (List.mem_append.mp hm).elim (h.refer.menuItems m) fun hm =>
      List.mem_singleton.mp hm ▸ hitem }

theorem anchored_setMenuItem {item : MenuItem} {set : MenuItem → MenuItem} (h : Anchored t₀ t)
    (hpk : t.menuItems.PrimaryKey) (hlookup : t.menuItems.lookup item.id = some item)
    (hid : ∀ m, (set m).id = m.id) (hbusiness : ∀ m, (set m).businessId = m.businessId)
    (hset : ∀ r ∈ (set item).references, t₀.Owns r) :
    Anchored t₀ (RoutesMenu.setMenuItem item.id set t) where
  keeps := by
    rintro ⟨businessId, resource, id⟩ hr
    have hkept := h.keeps _ hr
    cases resource with
    | menuItem => exact (owns_modify hid hbusiness).trans hkept
    | _ => exact hkept
  refer := by
    refine { h.refer with menuItems := fun m hm => ?_ }
    rcases Table.mem_modify_lookup hpk hlookup hm with hm | rfl
    · exact h.refer.menuItems m hm
    · exact hset

theorem anchored_linkAsset {image : Option (String × Asset)} {itemId : Uuid} (h : Anchored t₀ t) :
    Anchored t₀ (RoutesMenu.linkAsset image itemId t) := by
  cases image with
  | none => exact h
  | some image =>
      refine ⟨?_, { h.refer with }⟩
      rintro ⟨businessId, resource, id⟩ hr
      have hkept := h.keeps _ hr
      cases resource with
      | asset =>
          refine Eq.trans ?_ hkept
          exact owns_modify (fun _ => rfl) fun _ => rfl
      | _ => exact hkept

theorem anchored_insertOrder {order : Order} (h : Anchored t₀ t) :
    Anchored t₀ (RoutesPos.insertOrder order t) where
  keeps := by
    rintro ⟨businessId, resource, id⟩ hr
    have hkept := h.keeps _ hr
    cases resource with
    | order => exact owns_insert hkept
    | _ => exact hkept
  refer := { h.refer with }

theorem anchored_insertOrderRows {items : List OrderItem} {event : OrderEvent}
    {allocations : List POSPaymentAllocation} (h : Anchored t₀ t)
    (hitems : ∀ i ∈ items, ∀ r ∈ i.references, t₀.Owns r) :
    Anchored t₀ (RoutesPos.insertOrderRows items event allocations t) := by
  apply h.aside (owner_congr fun resource => by cases resource <;> rfl)
  exact { h.refer with
    orderItems := fun i hi => (List.mem_append.mp hi).elim (h.refer.orderItems i) (hitems i) }

theorem anchored_consumeIntents {orderId : Uuid} {now : Instant}
    {intents : List POSPaymentLinkIntent} (h : Anchored t₀ t) :
    Anchored t₀ (RoutesPos.consumeIntents orderId now intents t) where
  keeps := by
    rintro ⟨businessId, resource, id⟩ hr
    have hkept := h.keeps _ hr
    cases resource with
    | intent =>
        obtain ⟨i, hi, hbusiness⟩ := Option.map_eq_some_iff.mp hkept
        simp only [Tables.Owns, Tables.owner, RoutesPos.lookup_consumeIntents, hi, Option.map_some]
        split <;> simpa [RoutesPos.consumeIntent] using hbusiness
    | _ => exact hkept
  refer := { h.refer with }

end Stores

section Handlers

variable {α β : Type} {db : Database} {user : AuthUser} {businessId : Uuid}

def Safe (db : Database) (x : Handler α) : Prop :=
  x.Ensures db fun _ db' => Anchored db.toTables db'.toTables

theorem safe_readOnly {x : Handler α} (href : OwnReferences db.toTables)
    (hx : x.ReadOnly fun _ => True) : Safe db x :=
  hx.ensures (fun _ _ => href.anchored) fun _ => href.anchored

theorem safe_yields {R : β → Prop} {x : Handler β} {f : β → Handler α}
    (href : OwnReferences db.toTables) (hx : x.Yields db R) (hf : ∀ b, R b → Safe db (f b)) :
    Safe db (x.bind f) :=
  ensures_seq hx hf fun _ => href.anchored

theorem safe_seq {x : Handler β} {f : β → Handler α} (href : OwnReferences db.toTables)
    (hx : x.ReadOnly fun _ => True) (hf : ∀ b, Safe db (f b)) : Safe db (x.bind f) :=
  safe_yields href hx.yields fun b _ => hf b

theorem safe_commit {site : CommitSite} {session : Session} {f : Unit → Handler α}
    (href : OwnReferences db.toTables)
    (h : Anchored db.toTables (session.pending db.toTables))
    (hf : ∀ u, (f u).ReadOnly fun _ => True) : Safe db ((commit site session).bind f) := by
  refine ensures_bind.mpr (commit_ensures (fun db' htables _ => ?_) fun _ => href.anchored)
  have hanchored : Anchored db.toTables db'.toTables := htables ▸ h
  exact (hf ()).ensures (fun _ _ => hanchored) fun _ => hanchored

theorem safe_tryCommit {site : CommitSite} {keys : List RowKey} {pending : Pending}
    {f : Option Failure → Handler α} (href : OwnReferences db.toTables)
    (h : Anchored db.toTables (pending db.toTables)) (hf : ∀ fault, (f fault).ReadOnly fun _ => True) :
    Safe db ((tryCommit site keys (Database.write pending)).bind f) := by
  refine ensures_bind.mpr (ensures_tryCommit.mpr ⟨fun db' hwrite => ?_, fun e _ => ?_⟩)
  · have hanchored : Anchored db.toTables db'.toTables := (Database.write_ok hwrite).1 ▸ h
    exact (hf none).ensures (fun _ _ => hanchored) fun _ => hanchored
  · exact safe_readOnly href (hf (some e))

theorem read_yields {q : Database → β} : (Txn.read q : Handler β).Yields db fun b => b = q db :=
  yields_read rfl

theorem owns_of_filter {γ : Type} [Keyed γ Uuid] {rows : Table γ} {owner : γ → Uuid}
    {p : γ → Bool} {id : Uuid} {row : γ} (h : (rows.lookup id).filter p = some row)
    (hp : p row = true → owner row = businessId) :
    (rows.lookup id).map owner = some businessId := by
  obtain ⟨hlookup, howns⟩ := Option.filter_eq_some_iff.mp h
  simp [hlookup, hp howns]

theorem requireOwned_owns {γ : Type} [Keyed γ Uuid] {rows : Database → Table γ} {owner : γ → Uuid}
    {p : γ → Bool} {label : String} {id : Uuid}
    (hp : ∀ row, p row = true → owner row = businessId) :
    (requireOwned rows p label id).Yields db fun _ =>
      ((rows db).lookup id).map owner = some businessId :=
  requireOwned_yields.mono fun row h => by simp [h.1, hp row h.2]

theorem requireCategory_owns {categoryId : Option Uuid} :
    (RoutesMenu.requireCategory businessId categoryId).Yields db fun _ =>
      ∀ id ∈ categoryId, db.Owns ⟨businessId, .category, id⟩ := by
  cases categoryId with
  | none => exact yields_done (by simp)
  | some categoryId =>
      refine yields_seq (requireOwned_owns fun row h => of_decide_eq_true h) fun row h => ?_
      exact yields_done fun id hid => Option.some.inj hid ▸ h

theorem resolveItemImage_owns {settings : RoutesMenu.StorageSettings}
    {imageAssetId : Option Uuid} :
    (RoutesMenu.resolveItemImage settings businessId imageAssetId).Yields db fun _ =>
      ∀ id ∈ imageAssetId, db.Owns ⟨businessId, .asset, id⟩ := by
  cases imageAssetId with
  | none => exact yields_done (by simp)
  | some imageAssetId =>
      refine yields_seq read_yields fun row hrow => ?_
      refine yields_seq (yields_orFail fun asset hasset => ?_) fun asset h => yields_done h
      intro id hid
      obtain rfl := Option.some.inj hid
      exact owns_of_filter (hrow.symm.trans hasset) of_decide_eq_true

theorem requireSupplier_owns {supplierId : Option Uuid} :
    (RoutesInventory.requireSupplier businessId supplierId).Yields db fun _ =>
      ∀ id ∈ supplierId, db.Owns ⟨businessId, .supplier, id⟩ := by
  cases supplierId with
  | none => exact yields_done (by simp)
  | some supplierId =>
      refine yields_seq read_yields fun row hrow => ?_
      refine yields_seq (yields_orFail fun supplier hsupplier => ?_) fun _ h => yields_done h
      intro id hid
      obtain rfl := Option.some.inj hid
      exact owns_of_filter (hrow.symm.trans hsupplier) of_decide_eq_true

theorem requireAsset_owns {assetId : Option Uuid} :
    (RoutesWastage.requireAsset businessId assetId).Yields db fun _ =>
      ∀ id ∈ assetId, db.Owns ⟨businessId, .asset, id⟩ := by
  cases assetId with
  | none => exact yields_done (by simp)
  | some assetId =>
      refine yields_seq read_yields fun row hrow => ?_
      refine yields_seq (yields_orFail fun asset hasset => ?_) fun _ h => yields_done h
      intro id hid
      obtain rfl := Option.some.inj hid
      exact owns_of_filter (hrow.symm.trans hasset) of_decide_eq_true

theorem requireOrder_owns {orderId : Option Uuid} :
    (RoutesWastage.requireOrder businessId orderId).Yields db fun _ =>
      ∀ id ∈ orderId, db.Owns ⟨businessId, .order, id⟩ := by
  cases orderId with
  | none => exact yields_done (by simp)
  | some orderId =>
      refine yields_seq read_yields fun row hrow => ?_
      refine yields_seq (yields_orFail fun order horder => ?_) fun _ h => yields_done h
      intro id hid
      obtain rfl := Option.some.inj hid
      exact owns_of_filter (hrow.symm.trans horder) of_decide_eq_true

theorem loadIngredient_owns {ingredientId : Uuid} :
    (RoutesInventory.loadIngredient businessId ingredientId).Yields db fun ingredient =>
      db.Owns ⟨businessId, .ingredient, ingredient.id⟩ := by
  refine yields_seq read_yields fun row hrow => yields_orFail fun ingredient hingredient => ?_
  have hfound := hrow.symm.trans hingredient
  have hkey : ingredient.id = ingredientId :=
    Table.lookup_key (Option.filter_eq_some_iff.mp hfound).1
  rw [hkey]
  exact owns_of_filter hfound fun h => (of_decide_eq_true h).1

def parentReference (businessId : Uuid) : RoutesRecipes.RecipeParent → Reference
  | .menuItem id => ⟨businessId, .menuItem, id⟩
  | .menuAddOn id => ⟨businessId, .addOn, id⟩

theorem requireParent_owns {parent : RoutesRecipes.RecipeParent} :
    (RoutesRecipes.requireParent businessId parent).Yields db fun _ =>
      db.Owns (parentReference businessId parent) := by
  cases parent with
  | menuItem id =>
      exact yields_seq (requireOwned_owns fun row h => of_decide_eq_true h) fun row h =>
        yields_done h
  | menuAddOn id =>
      exact yields_seq (requireOwned_owns fun row h => of_decide_eq_true h) fun row h =>
        yields_done h

theorem requireMenuItem_owns {menuItemId : Option Uuid} :
    (RoutesExternalOrders.requireMenuItem businessId menuItemId).Yields db fun _ =>
      ∀ id ∈ menuItemId, db.Owns ⟨businessId, .menuItem, id⟩ := by
  cases menuItemId with
  | none => exact yields_done (by simp)
  | some menuItemId =>
      refine yields_seq (requireOwned_owns fun row h => of_decide_eq_true h) fun row h => ?_
      exact yields_done fun id hid => Option.some.inj hid ▸ h

theorem requireAddOn_owns {menuAddOnId : Option Uuid} :
    (RoutesExternalOrders.requireAddOn businessId menuAddOnId).Yields db fun _ =>
      ∀ id ∈ menuAddOnId, db.Owns ⟨businessId, .addOn, id⟩ := by
  cases menuAddOnId with
  | none => exact yields_done (by simp)
  | some menuAddOnId =>
      refine yields_seq (requireOwned_owns fun row h => of_decide_eq_true h) fun row h => ?_
      exact yields_done fun id hid => Option.some.inj hid ▸ h

theorem patched {p : RoutesMenu.Patch Uuid} {stored : Option Uuid} {P : Uuid → Prop}
    (hp : ∀ id ∈ p.join, P id) (hstored : ∀ id ∈ stored, P id) : ∀ id ∈ p.getD stored, P id := by
  cases p with
  | none => exact hstored
  | some p => exact hp

theorem readOnly_refreshItem {itemId : Uuid} :
    (RoutesMenu.refreshItem itemId).ReadOnly fun _ => True :=
  readOnly_seq readOnly_read fun _ => conforms_orFail fun _ _ => trivial

theorem createItem_safe {settings : RoutesMenu.StorageSettings} {itemId : Uuid}
    {body : RoutesMenu.ItemCreate} (href : OwnReferences db.toTables) :
    Safe db (RoutesMenu.createItem settings user itemId body) := by
  refine safe_seq href readOnly_requireOwnerOrManager fun _ => ?_
  refine safe_yields href resolveItemImage_owns fun image himage => ?_
  refine safe_yields href requireCategory_owns fun _ hcategory => ?_
  refine safe_seq href readOnly_read fun business => ?_
  refine safe_commit href ?_ fun _ => readOnly_refreshItem
  refine anchored_linkAsset (anchored_insertMenuItem href.anchored ?_)
  exact MenuItem.forall_references.mpr ⟨hcategory, himage, by simp [RoutesMenu.newItem]⟩

theorem updateItem_safe {settings : RoutesMenu.StorageSettings} {itemId : Uuid}
    {body : RoutesMenu.ItemUpdate} (href : OwnReferences db.toTables) :
    Safe db (RoutesMenu.updateItem settings user itemId body) := by
  refine safe_seq href readOnly_requireOwnerOrManager fun _ => ?_
  refine safe_yields href requireOwned_yields fun item hitem => ?_
  refine safe_yields href requireCategory_owns fun _ hcategory => ?_
  refine safe_yields href resolveItemImage_owns fun image himage => ?_
  refine safe_seq href (conforms_require fun _ => trivial) fun _ => ?_
  refine safe_commit href ?_ fun _ => readOnly_refreshItem
  obtain ⟨hlookup, howns⟩ := hitem
  have hbusiness : item.businessId = user.businessId := (of_decide_eq_true howns).1
  have hstored := MenuItem.forall_references.mp
    (href.menuItems item (Table.lookup_mem hlookup))
  have hkey : item.id = itemId := Table.lookup_key hlookup
  apply anchored_linkAsset
  refine anchored_setMenuItem href.anchored (db.valid .menuItemsPkey) (hkey ▸ hlookup)
    (fun _ => rfl) (fun _ => rfl) (MenuItem.forall_references.mpr ⟨?_, ?_, hstored.2.2⟩)
  · exact patched (hbusiness ▸ hcategory) hstored.1
  · exact patched (hbusiness ▸ himage) hstored.2.1

theorem attachAddOn_safe {itemId addOnId : Uuid} (href : OwnReferences db.toTables) :
    Safe db (RoutesMenu.attachAddOn user itemId addOnId) := by
  refine safe_seq href readOnly_requireOwnerOrManager fun _ => ?_
  refine safe_yields href requireOwned_yields fun item hitem => ?_
  refine safe_yields href (requireOwned_owns fun row h => (of_decide_eq_true h).1)
    fun addOn haddOn => ?_
  obtain ⟨hlookup, howns⟩ := hitem
  have hbusiness : item.businessId = user.businessId := (of_decide_eq_true howns).1
  obtain rfl : item.id = itemId := Table.lookup_key hlookup
  have hstored := MenuItem.forall_references.mp (href.menuItems item (Table.lookup_mem hlookup))
  have hset : Anchored db.toTables (RoutesMenu.linkAddOn item.id addOnId db.toTables) := by
    refine anchored_setMenuItem href.anchored (db.valid .menuItemsPkey) hlookup (fun _ => rfl)
      (fun _ => rfl) (MenuItem.forall_references.mpr ⟨hstored.1, hstored.2.1, ?_⟩)
    intro id hid
    dsimp only at hid
    split at hid
    · exact hstored.2.2 id hid
    · rcases List.mem_append.mp hid with hid | hid
      · exact hstored.2.2 id hid
      · obtain rfl := List.mem_singleton.mp hid
        rw [hbusiness]
        exact haddOn
  exact commit_ensures (fun db' htables _ => htables ▸ hset) fun _ => href.anchored

theorem owns_ingredient {ingredient : Ingredient} (hmem : ingredient ∈ db.ingredients) :
    db.Owns ⟨ingredient.businessId, .ingredient, ingredient.id⟩ := by
  have hlookup : db.ingredients.lookup ingredient.id = some ingredient :=
    Table.lookup_of_mem (db.valid .ingredientsPkey) hmem
  simp [Tables.Owns, Tables.owner, hlookup]

theorem loadIngredients_owns {ids : List Uuid} :
    (RoutesRecipes.loadIngredients businessId ids).Yields db fun ingredients =>
      ∀ i ∈ ingredients, db.Owns ⟨businessId, .ingredient, i.id⟩ := by
  unfold RoutesRecipes.loadIngredients
  split
  · exact yields_done (by simp)
  · refine yields_read fun i hi => ?_
    obtain ⟨hmem, hkept⟩ := List.mem_filter.mp hi
    obtain ⟨hbusiness, -⟩ := of_decide_eq_true hkept
    exact hbusiness ▸ owns_ingredient hmem

theorem recipeItem_ingredient {ingredient : Ingredient} {item : RoutesRecipes.RecipeItemRequest}
    {line : RecipeItem} (h : RoutesRecipes.recipeItem ingredient item = .ok line) :
    line.ingredientId = ingredient.id := by
  obtain ⟨quantityMilli, -, h⟩ := bind_eq_ok h
  obtain rfl := Except.ok.inj h
  rfl

theorem recipeItems_ingredients {ingredients : List Ingredient}
    {items : List RoutesRecipes.RecipeItemRequest} {lines : List RecipeItem}
    (h : RoutesRecipes.recipeItems ingredients items = .ok lines) :
    ∀ line ∈ lines, ∃ i ∈ ingredients, i.id = line.ingredientId := by
  induction items generalizing lines with
  | nil =>
      obtain rfl := Except.ok.inj h
      simp
  | cons item items ih =>
      unfold RoutesRecipes.recipeItems at h
      split at h
      · exact ih h
      next ingredient hfound =>
        obtain ⟨line, hline, h⟩ := bind_eq_ok h
        obtain ⟨rest, hrest, h⟩ := bind_eq_ok h
        obtain rfl := Except.ok.inj h
        intro line' hline'
        rcases List.mem_cons.mp hline' with rfl | hline'
        · exact ⟨ingredient, List.mem_of_find?_eq_some hfound, (recipeItem_ingredient hline).symm⟩
        · exact ih hrest line' hline'

theorem saveRecipe_safe {recipeId : Uuid} {body : RoutesRecipes.RecipeUpsertRequest}
    {items : List RecipeItem} {existing : Option Recipe} {f : Uuid → Handler α}
    (href : OwnReferences db.toTables) (hf : ∀ id, (f id).ReadOnly fun _ => True)
    (hexisting : ∀ recipe ∈ existing, recipe ∈ db.recipes ∧ recipe.businessId = user.businessId)
    (hnew : ∀ r ∈ (RoutesRecipes.newRecipe user recipeId body items).references, db.Owns r) :
    Safe db ((RoutesRecipes.saveRecipe user recipeId body items existing).bind f) := by
  cases existing with
  | none =>
      rw [RoutesRecipes.saveRecipe, bind_eq, Txn.bind_assoc]
      exact safe_commit href (anchored_insertRecipe href.anchored hnew) fun _ => hf recipeId
  | some recipe =>
      obtain ⟨hmem, hbusiness⟩ := hexisting recipe rfl
      rw [RoutesRecipes.saveRecipe, bind_eq, Txn.bind_assoc]
      refine safe_commit href ?_ fun _ => hf recipe.id
      apply anchored_setRecipe href.anchored (db.valid .recipesPkey) hmem
      have hstored := Recipe.forall_references.mp (href.recipes recipe hmem)
      have hlines := (Recipe.forall_references.mp hnew).2.2
      refine Recipe.forall_references.mpr ⟨hstored.1, hstored.2.1, ?_⟩
      simpa [RoutesRecipes.replaceRecipe, RoutesRecipes.newRecipe, hbusiness] using hlines

theorem mem_of_rows {rows : List β} {row : Option β} (h : rows = row.toList) :
    ∀ r ∈ row, r ∈ rows := by
  simp [h]

theorem recipeParent_owns {body : RoutesRecipes.RecipeUpsertRequest}
    {parent : RoutesRecipes.RecipeParent}
    (hparent : RoutesRecipes.recipeParent body = some parent)
    (howns : db.Owns (parentReference businessId parent)) :
    (∀ id ∈ body.menuItemId, db.Owns ⟨businessId, .menuItem, id⟩) ∧
      ∀ id ∈ body.menuAddOnId, db.Owns ⟨businessId, .addOn, id⟩ := by
  unfold RoutesRecipes.recipeParent at hparent
  split at hparent
  next id hitem haddOn =>
    obtain rfl := Option.some.inj hparent
    simpa [hitem, haddOn, parentReference] using howns
  next id hitem haddOn =>
    obtain rfl := Option.some.inj hparent
    simpa [hitem, haddOn, parentReference] using howns
  next => cases hparent

theorem upsertRecipe_safe {recipeId : Uuid} {body : RoutesRecipes.RecipeUpsertRequest}
    (href : OwnReferences db.toTables) :
    Safe db (RoutesRecipes.upsertRecipe user recipeId body) := by
  refine safe_seq href readOnly_requireOwnerOrManager fun _ => ?_
  refine safe_seq href RoutesInventory.readOnly_requireInventoryEnabled fun _ => ?_
  refine safe_yields href (yields_orFail fun parent => id) fun parent hparent => ?_
  refine safe_yields href requireParent_owns fun _ hparentOwns => ?_
  refine safe_yields href loadIngredients_owns fun ingredients hingredients => ?_
  refine safe_seq href readOnly_ensure fun _ => ?_
  refine safe_yields href scalar_rows fun existing hexisting => ?_
  refine safe_yields href (liftExcept_ok _).yields fun items hitems => ?_
  obtain ⟨hitem, haddOn⟩ := recipeParent_owns hparent hparentOwns
  apply saveRecipe_safe href
  · intro id
    refine readOnly_seq readOnly_read fun row => ?_
    exact readOnly_seq (conforms_orFail fun _ _ => trivial) fun _ => trivial
  · intro recipe hrecipe
    obtain ⟨hmem, hkept⟩ := List.mem_filter.mp (mem_of_rows hexisting recipe hrecipe)
    exact ⟨hmem, (of_decide_eq_true hkept).1⟩
  · refine Recipe.forall_references.mpr ⟨hitem, haddOn, fun line hline => ?_⟩
    obtain ⟨i, hi, hid⟩ := recipeItems_ingredients hitems line hline
    exact hid ▸ hingredients i hi

theorem saveMapping_safe {mappingId : Uuid} {body : RoutesExternalOrders.MappingCreateRequest}
    {existing : Option ExternalProductMapping} {f : Uuid → Handler α}
    (href : OwnReferences db.toTables) (hf : ∀ id, (f id).ReadOnly fun _ => True)
    (hexisting : ∀ mapping ∈ existing, mapping ∈ db.externalProductMappings ∧
      mapping.businessId = user.businessId)
    (hnew : ∀ r ∈ (RoutesExternalOrders.newMapping user mappingId body).references, db.Owns r) :
    Safe db ((RoutesExternalOrders.saveMapping user mappingId body existing).bind f) := by
  cases existing with
  | none =>
      rw [RoutesExternalOrders.saveMapping, bind_eq, Txn.bind_assoc]
      exact safe_commit href (anchored_insertMapping href.anchored hnew) fun _ => hf mappingId
  | some mapping =>
      obtain ⟨hmem, hbusiness⟩ := hexisting mapping rfl
      rw [RoutesExternalOrders.saveMapping, bind_eq, Txn.bind_assoc]
      refine safe_commit href ?_ fun _ => hf mapping.id
      apply anchored_setMapping href.anchored (db.valid .externalProductMappingsPkey) hmem
      have htargets := ExternalProductMapping.forall_references.mp hnew
      refine ExternalProductMapping.forall_references.mpr ?_
      simpa [RoutesExternalOrders.remap, RoutesExternalOrders.newMapping, hbusiness] using htargets

theorem upsertMapping_safe {mappingId : Uuid} {body : RoutesExternalOrders.MappingCreateRequest}
    (href : OwnReferences db.toTables) :
    Safe db (RoutesExternalOrders.upsertMapping user mappingId body) := by
  refine safe_seq href readOnly_requireOwnerOrManager fun _ => ?_
  refine safe_seq href readOnly_loadBusiness fun business => ?_
  refine safe_seq href readOnly_ensure fun _ => ?_
  refine safe_seq href Pos.readOnly_raiseError fun _ => ?_
  refine safe_yields href requireMenuItem_owns fun _ hitem => ?_
  refine safe_yields href requireAddOn_owns fun _ haddOn => ?_
  refine safe_yields href scalar_rows fun existing hexisting => ?_
  apply saveMapping_safe href
  · intro id
    refine readOnly_seq readOnly_read fun row => ?_
    exact readOnly_seq (conforms_orFail fun _ _ => trivial) fun _ => trivial
  · intro mapping hmapping
    obtain ⟨hmem, hkept⟩ := List.mem_filter.mp (mem_of_rows hexisting mapping hmapping)
    exact ⟨hmem, (of_decide_eq_true hkept).1⟩
  · exact ExternalProductMapping.forall_references.mpr ⟨hitem, haddOn⟩

theorem receivedLines_ingredients {receiptId : Uuid} {occurred : Instant}
    {ingredients : List Ingredient} {lines : List RoutesInventory.GoodsReceiptLineRequest}
    {received : List RoutesInventory.ReceivedLine}
    (h : RoutesInventory.receivedLines user receiptId occurred ingredients lines = .ok received) :
    ∀ r ∈ received, ∃ i ∈ ingredients, ∃ line quantityMilli cost,
      r = RoutesInventory.receivedLine user receiptId occurred i line quantityMilli cost := by
  induction lines generalizing received with
  | nil =>
      obtain rfl := Except.ok.inj h
      simp
  | cons line lines ih =>
      unfold RoutesInventory.receivedLines at h
      split at h
      · exact ih h
      next ingredient hfound =>
        obtain ⟨quantityMilli, -, h⟩ := bind_eq_ok h
        obtain ⟨cost, -, h⟩ := bind_eq_ok h
        obtain ⟨rest, hrest, h⟩ := bind_eq_ok h
        obtain rfl := Except.ok.inj h
        intro r hr
        rcases List.mem_cons.mp hr with rfl | hr
        · exact ⟨ingredient, List.mem_of_find?_eq_some hfound, line, quantityMilli, cost, rfl⟩
        · exact ih hrest r hr

theorem readOnly_replayGoodsReceipt {body : RoutesInventory.GoodsReceiptCreateRequest}
    {fault : Failure} :
    (RoutesInventory.replayGoodsReceipt businessId body fault).ReadOnly fun _ => True := by
  unfold RoutesInventory.replayGoodsReceipt
  split
  · exact readOnly_seq readOnly_read fun _ => conforms_orFail fun _ _ => trivial
  · trivial

theorem receiveGoods_safe {receiptId : Uuid} {body : RoutesInventory.GoodsReceiptCreateRequest}
    (href : OwnReferences db.toTables) :
    Safe db (RoutesInventory.receiveGoods user receiptId body) := by
  refine safe_yields href read_yields fun ingredients hingredients => ?_
  refine safe_seq href readOnly_ensure fun _ => ?_
  refine safe_yields href requireSupplier_owns fun _ hsupplier => ?_
  refine safe_seq href readOnly_readNow fun now => ?_
  have howns : ∀ i ∈ ingredients, db.Owns ⟨user.businessId, .ingredient, i.id⟩ := by
    intro i hi
    rw [hingredients] at hi
    obtain ⟨hmem, hkept⟩ := List.mem_filter.mp hi
    obtain ⟨hbusiness, -⟩ := of_decide_eq_true hkept
    exact hbusiness ▸ owns_ingredient hmem
  refine safe_yields href (liftExcept_ok _).yields fun received hreceived => ?_
  refine safe_seq href RoutesInventory.readOnly_requireFits fun _ => ?_
  refine safe_tryCommit href ?_ fun fault => ?_
  · refine anchored_appendMovements (anchored_insertReceipt href.anchored
      (GoodsReceipt.forall_references.mpr hsupplier) fun l hl => ?_) fun m hm => ?_
    · obtain ⟨r, hr, rfl⟩ := List.mem_map.mp hl
      obtain ⟨i, hi, line, quantityMilli, cost, rfl⟩ := receivedLines_ingredients hreceived r hr
      exact GoodsReceiptLine.forall_references.mpr (howns i hi)
    · obtain ⟨r, hr, rfl⟩ := List.mem_map.mp hm
      obtain ⟨i, hi, line, quantityMilli, cost, rfl⟩ := receivedLines_ingredients hreceived r hr
      exact StockMovement.forall_references.mpr (howns i hi)
  · cases fault with
    | none => trivial
    | some fault => exact readOnly_replayGoodsReceipt

theorem createGoodsReceipt_safe {receiptId : Uuid}
    {body : RoutesInventory.GoodsReceiptCreateRequest} (href : OwnReferences db.toTables) :
    Safe db (RoutesInventory.createGoodsReceipt user receiptId body) := by
  refine safe_seq href readOnly_requireStaffOrAbove fun _ => ?_
  refine safe_seq href RoutesInventory.readOnly_requireInventoryEnabled fun _ => ?_
  refine safe_seq href readOnly_read fun replayed => ?_
  cases replayed with
  | some response => exact safe_readOnly href trivial
  | none => exact receiveGoods_safe href

theorem anchored_movement {movement : StockMovement} (href : OwnReferences db.toTables)
    (h : db.Owns ⟨movement.businessId, .ingredient, movement.ingredientId⟩) :
    Anchored db.toTables (appendMovements [movement] db.toTables) :=
  anchored_appendMovements href.anchored fun _ hm =>
    List.mem_singleton.mp hm ▸ StockMovement.forall_references.mpr h

theorem setOpeningStock_safe {body : RoutesInventory.OpeningStockRequest}
    (href : OwnReferences db.toTables) :
    Safe db (RoutesInventory.setOpeningStock user body) := by
  refine safe_seq href readOnly_requireOwnerOrManager fun _ => ?_
  refine safe_seq href RoutesInventory.readOnly_requireInventoryEnabled fun _ => ?_
  refine safe_yields href loadIngredient_owns fun ingredient hingredient => ?_
  refine safe_seq href RoutesInventory.readOnly_convert fun quantityMilli => ?_
  refine safe_seq href readOnly_ensure fun _ => ?_
  refine safe_seq href readOnly_read fun already => ?_
  refine safe_seq href readOnly_ensure fun _ => ?_
  refine safe_seq href readOnly_readNow fun now => ?_
  refine safe_tryCommit href (anchored_movement href hingredient) fun fault => ?_
  split <;> trivial

theorem createAdjustment_safe {body : RoutesInventory.AdjustmentRequest}
    (href : OwnReferences db.toTables) :
    Safe db (RoutesInventory.createAdjustment user body) := by
  refine safe_seq href readOnly_requireOwnerOrManager fun _ => ?_
  refine safe_seq href RoutesInventory.readOnly_requireInventoryEnabled fun _ => ?_
  refine safe_yields href loadIngredient_owns fun ingredient hingredient => ?_
  refine safe_seq href readOnly_found fun magnitude => ?_
  refine safe_seq href readOnly_liftExcept fun isZero => ?_
  refine safe_seq href readOnly_ensure fun _ => ?_
  refine safe_seq href readOnly_liftExcept fun size => ?_
  refine safe_seq href RoutesInventory.readOnly_convert fun quantityMilli => ?_
  refine safe_seq href readOnly_liftExcept fun isNegative => ?_
  refine safe_seq href readOnly_readNow fun now => ?_
  exact safe_commit href (anchored_movement href hingredient) fun _ => trivial

theorem recordWastage_safe {entryId : Uuid} {body : RoutesWastage.WastageCreateRequest}
    (href : OwnReferences db.toTables) :
    Safe db (RoutesWastage.recordWastage user entryId body) := by
  refine safe_seq href readOnly_requireStaffOrAbove fun _ => ?_
  refine safe_seq href RoutesInventory.readOnly_requireInventoryEnabled fun business => ?_
  refine safe_yields href loadIngredient_owns fun ingredient hingredient => ?_
  refine safe_seq href RoutesInventory.readOnly_convert fun quantityMilli => ?_
  refine safe_seq href readOnly_ensure fun _ => ?_
  refine safe_yields href requireAsset_owns fun _ hasset => ?_
  refine safe_yields href requireOrder_owns fun _ horder => ?_
  refine safe_seq href readOnly_readNow fun now => ?_
  refine safe_commit href ?_ fun _ => trivial
  refine anchored_appendMovements (anchored_insertEntry href.anchored
    (WastageEntry.forall_references.mpr ⟨hingredient, hasset, horder⟩)) fun m hm => ?_
  obtain rfl := List.mem_singleton.mp hm
  exact StockMovement.forall_references.mpr hingredient

end Handlers

end NextgenBackend.Tenancy
