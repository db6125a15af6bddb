import NextgenBackend.Tenancy.StoredReferences

namespace NextgenBackend.Tenancy

open Fallible (bind_eq_ok mem_mapM_ok)

open Txn Inventory Pos

variable {db : Database} {user : AuthUser} {businessId : Uuid}

section Resolved

def OwnItem (t : Tables) (businessId : Uuid) (item : ResolvedPOSItem) : Prop :=
  t.Owns ⟨businessId, .menuItem, item.menuItemId⟩ ∧
    ∀ a ∈ item.addOnsSnapshot, t.Owns ⟨businessId, .addOn, a.addOnId⟩

theorem liveMenuItems_owns {m : MenuItem} (h : m ∈ liveMenuItems businessId db) :
    db.Owns ⟨businessId, .menuItem, m.id⟩ := by
  obtain ⟨hmem, hkept⟩ := List.mem_filter.mp h
  have hlookup : db.menuItems.lookup m.id = some m :=
    Table.lookup_of_mem (db.valid .menuItemsPkey) hmem
  simp [Tables.Owns, Tables.owner, hlookup, (of_decide_eq_true hkept).1]

theorem liveAddOns_owns {a : MenuAddOn} (h : a ∈ liveAddOns businessId db) :
    db.Owns ⟨businessId, .addOn, a.id⟩ := by
  obtain ⟨hmem, hkept⟩ := List.mem_filter.mp h
  have hlookup : db.menuAddOns.lookup a.id = some a :=
    Table.lookup_of_mem (db.valid .menuAddOnsPkey) hmem
  simp [Tables.Owns, Tables.owner, hlookup, (of_decide_eq_true hkept).1]

theorem resolveAddOn_listed {addOns : List MenuAddOn} {selection : POSAddOnSelection}
    {selected : SelectedAddOn} (h : resolveAddOn addOns selection = .ok selected) :
    ∃ a ∈ addOns, a.id = selected.addOnId := by
  unfold resolveAddOn at h
  split at h
  · cases h
  next a hfound =>
    dsimp only at h
    split at h
    · cases h
    · obtain rfl := Except.ok.inj h
      exact ⟨a, List.mem_of_find?_eq_some hfound, rfl⟩

theorem resolveItem_listed {menuItems : List MenuItem} {addOns : List MenuAddOn}
    {item : POSItemInput} {resolved : ResolvedPOSItem}
    (h : resolveItem menuItems addOns item = .ok resolved) :
    (∃ m ∈ menuItems, m.id = resolved.menuItemId) ∧
      ∀ selected ∈ resolved.addOnsSnapshot, ∃ a ∈ addOns, a.id = selected.addOnId := by
  unfold resolveItem at h
  dsimp only at h
  split at h
  next m hfound =>
    change (if ¬ m.isActive = true then _ else _) = _ at h
    split at h
    · obtain ⟨_, h, -⟩ := bind_eq_ok h
      cases h
    · obtain ⟨options, -, h⟩ := bind_eq_ok h
      obtain ⟨_, -, h⟩ := bind_eq_ok h
      obtain ⟨selected, hselected, h⟩ := bind_eq_ok h
      obtain ⟨removed, -, h⟩ := bind_eq_ok h
      obtain rfl := Except.ok.inj h
      refine ⟨⟨m, List.mem_of_find?_eq_some hfound, rfl⟩, fun a ha => ?_⟩
      obtain ⟨selection, -, hresolved⟩ := mem_mapM_ok hselected a ha
      exact resolveAddOn_listed hresolved
  next =>
    obtain ⟨_, h, -⟩ := bind_eq_ok h
    cases h

theorem resolveItems_owns {items : List POSItemInput} :
    (resolveItems (liveMenuItems businessId db) businessId items).Yields db fun resolved =>
      ∀ item ∈ resolved, OwnItem db.toTables businessId item := by
  induction items with
  | nil => exact yields_done (by simp)
  | cons item items ih =>
      refine yields_seq read_yields fun addOns haddOns => ?_
      refine yields_seq (raiseError_ok _).yields fun resolved hresolved => ?_
      refine yields_seq ih fun rest hrest => yields_done ?_
      subst haddOns
      obtain ⟨⟨m, hm, hid⟩, haddOns⟩ := resolveItem_listed hresolved
      intro item' hitem'
      rcases List.mem_cons.mp hitem' with rfl | hitem'
      · refine ⟨hid ▸ liveMenuItems_owns hm, fun a ha => ?_⟩
        obtain ⟨addOn, haddOn, hid⟩ := haddOns a ha
        exact hid ▸ liveAddOns_owns haddOn
      · exact hrest item' hitem'

theorem resolvePosItems_owns {items : List POSItemInput} :
    (resolvePosItems businessId items).Yields db fun resolved =>
      ∀ item ∈ resolved, OwnItem db.toTables businessId item := by
  refine yields_seq read_yields fun menuItems hmenuItems => ?_
  exact hmenuItems ▸ resolveItems_owns

end Resolved

section Consumed

variable {S : Uuid → Prop} {totals : List IngredientConsumption} {item : LineItemSpec}

def Uses (S : Uuid → Prop) (totals : List IngredientConsumption) : Prop :=
  ∀ c ∈ totals, S c.ingredientId

theorem uses_addConsumption {ingredientId : Uuid} {amount : Int} (h : Uses S totals)
    (hingredient : S ingredientId) : Uses S (addConsumption totals ingredientId amount) := by
  induction totals with
  | nil => simpa [Uses, addConsumption] using hingredient
  | cons c totals ih =>
      obtain ⟨hc, hrest⟩ := List.forall_mem_cons.mp h
      unfold addConsumption
      split
      · exact List.forall_mem_cons.mpr ⟨hingredient, hrest⟩
      · exact List.forall_mem_cons.mpr ⟨hc, ih hrest⟩

theorem uses_addRecipe {recipe : RecipeSpec} {multiplier : Int} (h : Uses S totals)
    (hrecipe : ∀ line ∈ recipe.lines, S line.ingredientId) :
    Uses S (addRecipe item recipe multiplier totals) := by
  unfold addRecipe
  refine List.foldlRecOn _ _ h fun totals htotals line hline => ?_
  dsimp only
  split
  · exact htotals
  · exact uses_addConsumption htotals (hrecipe line (List.mem_filter.mp hline).1)

theorem uses_resolveLineItem {itemRecipe : Option RecipeSpec}
    {addOnRecipes : Uuid → Option RecipeSpec}
    (hitem : ∀ recipe ∈ itemRecipe, ∀ line ∈ recipe.lines, S line.ingredientId)
    (haddOns : ∀ id, ∀ recipe ∈ addOnRecipes id, ∀ line ∈ recipe.lines, S line.ingredientId) :
    Uses S (resolveLineItem item itemRecipe addOnRecipes) := by
  unfold resolveLineItem
  refine List.foldlRecOn _ _ ?_ fun totals htotals selection hselection => ?_
  · cases itemRecipe with
    | none => simp [Uses]
    | some recipe => exact uses_addRecipe (by simp [Uses]) (hitem recipe rfl)
  · cases hrecipe : addOnRecipes selection.addOnId with
    | none => exact htotals
    | some recipe => exact uses_addRecipe htotals (haddOns _ recipe hrecipe)

theorem uses_resolveOrder {items : List LineItemSpec}
    {itemRecipes addOnRecipes : Uuid → Option RecipeSpec}
    (hitems : ∀ id, ∀ recipe ∈ itemRecipes id, ∀ line ∈ recipe.lines, S line.ingredientId)
    (haddOns : ∀ id, ∀ recipe ∈ addOnRecipes id, ∀ line ∈ recipe.lines, S line.ingredientId) :
    Uses S (resolveOrder items itemRecipes addOnRecipes).lines := by
  unfold resolveOrder
  refine List.foldlRecOn _ _ (by simp [Uses]) fun totals htotals item hitem => ?_
  refine List.foldlRecOn _ _ htotals fun totals htotals c hc => ?_
  exact uses_addConsumption htotals (uses_resolveLineItem (hitems _) haddOns c hc)

theorem recipeSpec_owns {recipe : Recipe} (href : OwnReferences db.toTables)
    (hmem : recipe ∈ db.recipes) (hbusiness : recipe.businessId = businessId) :
    ∀ line ∈ (recipeSpec recipe).lines, db.Owns ⟨businessId, .ingredient, line.ingredientId⟩ := by
  intro line hline
  obtain ⟨stored, hstored, rfl⟩ := List.mem_map.mp hline
  have hlines := (Recipe.forall_references.mp (href.recipes recipe hmem)).2.2
  exact hbusiness ▸ hlines stored (List.mem_mergeSort.mp hstored)

theorem mem_of_lookup {entries : List (Uuid × RecipeSpec)} {id : Uuid} {spec : RecipeSpec}
    (h : entries.lookup id = some spec) : (id, spec) ∈ entries := by
  obtain ⟨before, after, rfl, -⟩ := List.lookup_eq_some_iff.mp h
  simp

theorem loadRecipeSpecs_owns {menuItemIds addOnIds : List Uuid}
    (href : OwnReferences db.toTables) (specs : RecipeSpecs)
    (hspecs : specs = loadRecipeSpecs businessId menuItemIds addOnIds db) :
    (∀ id, ∀ recipe ∈ specs.item id, ∀ line ∈ recipe.lines,
      db.Owns ⟨businessId, .ingredient, line.ingredientId⟩) ∧
    ∀ id, ∀ recipe ∈ specs.addOn id, ∀ line ∈ recipe.lines,
      db.Owns ⟨businessId, .ingredient, line.ingredientId⟩ := by
  subst hspecs
  have howns : ∀ recipe ∈ db.recipes.filter (fun r => r.businessId = businessId ∧ r.isActive ∧
      (r.menuItemId.any menuItemIds.contains ∨ r.menuAddOnId.any addOnIds.contains)),
      ∀ line ∈ (recipeSpec recipe).lines,
        db.Owns ⟨businessId, .ingredient, line.ingredientId⟩ := by
    intro recipe hrecipe
    obtain ⟨hmem, hkept⟩ := List.mem_filter.mp hrecipe
    exact recipeSpec_owns href hmem (of_decide_eq_true hkept).1
  constructor
  · intro id spec hspec
    obtain ⟨recipe, hrecipe, hmap⟩ := List.mem_filterMap.mp (List.mem_reverse.mp (mem_of_lookup hspec))
    obtain ⟨_, -, hpair⟩ := Option.map_eq_some_iff.mp hmap
    obtain ⟨-, rfl⟩ := Prod.mk.inj hpair
    exact howns recipe hrecipe
  · intro id spec hspec
    obtain ⟨recipe, hrecipe, hmap⟩ := List.mem_filterMap.mp (List.mem_reverse.mp (mem_of_lookup hspec))
    split at hmap
    · cases hmap
    · obtain ⟨_, -, hpair⟩ := Option.map_eq_some_iff.mp hmap
      obtain ⟨-, rfl⟩ := Prod.mk.inj hpair
      exact howns recipe hrecipe

end Consumed

section Checkout

open RoutesPos

variable {orderId newCustomerId : Uuid} {body : POSOrderCreateRequest} {session : Session}

-- What a checkout stages keeps the tables anchored where it started.
def Anchors (db : Database) (f : Pending) : Prop :=
  ∀ t, Anchored db.toTables t → Anchored db.toTables (f t)

theorem anchors_neutral : Neutral (Anchors db) where
  id _ h := h
  comp _ _ hf hg t h := hg _ (hf t h)

theorem anchored_elsewhere {t₀ t : Tables} {f : Pending} (h : Anchored t₀ t)
    (howner : ∀ resource, (f t).owner resource = t.owner resource)
    (href : t.Refer t₀.Owns → (f t).Refer t₀.Owns) : Anchored t₀ (f t) :=
  h.aside (owner_congr howner) (href h.refer)

theorem anchored_insertCustomer {t₀ t : Tables} {customer : Customer} (h : Anchored t₀ t) :
    Anchored t₀ (Loyalty.insertCustomer customer t) :=
  anchored_elsewhere h (fun resource => by cases resource <;> rfl) fun href => { href with }

theorem anchored_postPoints {t₀ t : Tables} {set : Customer → Customer}
    {row : LoyaltyTransaction} (h : Anchored t₀ t) : Anchored t₀ (Loyalty.postPoints set row t) :=
  anchored_elsewhere h (fun resource => by cases resource <;> rfl) fun href => { href with }

theorem anchored_setOrderNumberSequence {t₀ t : Tables} {sequence : Nat} (h : Anchored t₀ t) :
    Anchored t₀ (setOrderNumberSequence businessId sequence t) :=
  anchored_elsewhere h (fun resource => by cases resource <;> rfl) fun href => { href with }

theorem postSaleConsumption_anchors {userId : Option Uuid} {specs : List LineItemSpec}
    {occurredAt : Instant} (href : OwnReferences db.toTables) :
    (postSaleConsumption session businessId orderId userId specs occurredAt).Yields db
      (session.Extends (Anchors db)) := by
  refine yields_seq read_yields fun recipes hrecipes => ?_
  dsimp only
  split
  · exact yields_done anchors_neutral.refl
  · refine yields_seq read_yields fun ingredients _ => yields_done (Session.extends_stage ?_)
    intro t h
    obtain ⟨hitems, haddOns⟩ := loadRecipeSpecs_owns href recipes hrecipes
    refine anchored_appendMovements h fun m hm => ?_
    obtain ⟨c, hc, rfl⟩ := List.mem_map.mp hm
    have howns := uses_resolveOrder (S := fun id => db.Owns ⟨businessId, .ingredient, id⟩) hitems
      haddOns c hc
    exact StockMovement.forall_references.mpr howns

theorem stageWhen_yields {N : Pending → Prop} {p : Prop} [Decidable p]
    {action : Session → Handler Session} (hN : Neutral N)
    (h : (action session).Yields db (session.Extends N)) :
    (session.stageWhen p action).Yields db (session.Extends N) := by
  unfold Session.stageWhen
  split
  · exact h
  · exact yields_done hN.refl

theorem priceItems_owns :
    (priceItems user body).Yields db fun priced =>
      ∀ item ∈ priced.2, OwnItem db.toTables user.businessId item := by
  refine yields_seq readOnly_loadBusiness.yields fun business _ => ?_
  refine yields_seq readOnly_raiseError.yields fun _ _ => ?_
  refine yields_seq resolvePosItems_owns fun items hitems => ?_
  exact yields_seq readOnly_raiseError.yields fun _ _ => yields_done hitems

theorem prepareSale_owns :
    (prepareSale user orderId newCustomerId body).Yields db fun prepared =>
      (∀ item ∈ prepared.1.items, OwnItem db.toTables user.businessId item) ∧
        Session.Extends (Anchors db) {} prepared.2 := by
  refine yields_seq priceItems_owns fun priced hitems => ?_
  have hneutral : Neutral (Anchors db) := anchors_neutral
  refine yields_seq (linkCustomer_stages hneutral
    fun _ _ _ _ h => anchored_insertCustomer h).yields fun linked hlinked => ?_
  refine yields_seq (redeemForSale_stages hneutral
    fun _ _ _ _ _ h => anchored_postPoints h).yields fun redeemed hredeemed => ?_
  exact yields_done ⟨hitems, hneutral.trans hlinked hredeemed⟩

theorem finishCheckout_anchored {order : Order} {t₀ : Tables} (h : Anchored t₀ db.toTables) :
    (finishCheckout user order).Ensures db fun _ db' => Anchored t₀ db'.toTables := by
  have hwrites : Writes (fun _ => True) (Preserves (Anchored t₀)) (finishCheckout user order) :=
    finishCheckout_writes preserves_neutral (fun _ => trivial)
      fun _ _ _ _ h => anchored_postPoints h
  exact preserves_run hwrites h

theorem saveCheckout_safe {order : Order} {sale : Sale} {intents : List POSPaymentLinkIntent}
    {now : Instant} (href : OwnReferences db.toTables)
    (hitems : ∀ item ∈ sale.items, OwnItem db.toTables order.businessId item)
    (hs : Session.Extends (Anchors db) {} session) :
    Safe db (saveCheckout user body sale order intents now session) := by
  have hneutral : Neutral (Anchors db) := anchors_neutral
  refine safe_seq href readOnly_read fun fault => ?_
  split
  · exact safe_readOnly href readOnly_replayIdempotentCheckout
  have horder : Anchors db (insertOrder order) := fun t h => anchored_insertOrder h
  have hrows (event : OrderEvent) (allocations : List POSPaymentAllocation) :
      Anchors db (insertOrderRows (sale.items.map (orderItem order)) event allocations) := by
    intro t h
    refine anchored_insertOrderRows h fun i hi => ?_
    obtain ⟨item, hitem, rfl⟩ := List.mem_map.mp hi
    obtain ⟨howns, haddOns⟩ := hitems item hitem
    refine OrderItem.forall_references.mpr ⟨fun id hid => ?_, fun a ha => ?_⟩
    · obtain rfl := Option.some.inj hid
      exact howns
    · exact haddOns a ha
  have hplaced (event : OrderEvent) (allocations : List POSPaymentAllocation) :
      Session.Extends (Anchors db) {} ((session.stage [] (insertOrder order)).stage []
        (insertOrderRows (sale.items.map (orderItem order)) event allocations)) :=
    hneutral.trans (hneutral.trans hs (Session.extends_stage horder))
      (Session.extends_stage (hrows event allocations))
  refine safe_yields href (stageWhen_yields hneutral (postSaleConsumption_anchors href))
    fun session' hs' => ?_
  have hpending := (hneutral.trans (hplaced _ _) hs').pending
  refine ensures_bind.mpr (ensures_tryCommit.mpr ⟨fun db' hwrite => ?_, fun e _ => ?_⟩)
  · exact finishCheckout_anchored ((Database.write_ok hwrite).1 ▸ hpending _ href.anchored)
  · exact safe_readOnly href readOnly_replayIdempotentCheckout

theorem placeOrder_safe {till : TillSession} {sale : Sale} (href : OwnReferences db.toTables)
    (hitems : ∀ item ∈ sale.items, OwnItem db.toTables user.businessId item)
    (hs : Session.Extends (Anchors db) {} session) :
    Safe db (placeOrder user orderId body till sale session) := by
  have hneutral : Neutral (Anchors db) := anchors_neutral
  refine safe_seq href readOnly_readNow fun now => ?_
  refine safe_seq href readOnly_settlePayments fun settlement => ?_
  cases settlement with
  | replayed order => exact safe_readOnly href trivial
  | settled intents changeDue =>
      have hsequence (sequence : Nat) :
          Anchors db (setOrderNumberSequence user.businessId sequence) :=
        fun t h => anchored_setOrderNumberSequence h
      refine safe_yields href (nextOrderNumber_stages hsequence).yields fun numbered hs' => ?_
      have hconsumed : Anchors db (consumeIntents orderId now intents) :=
        fun t h => anchored_consumeIntents h
      exact saveCheckout_safe href hitems
        (hneutral.trans (hneutral.trans hs (Session.extends_stage hconsumed)) hs')

theorem createPosOrder_safe (href : OwnReferences db.toTables) :
    Safe db (createPosOrder user orderId newCustomerId body) := by
  refine safe_seq href readOnly_requirePosEnabled fun _ => ?_
  refine safe_seq href readOnly_requireStaffOrAbove fun _ => ?_
  refine safe_seq href readOnly_replay fun existing => ?_
  cases existing with
  | some order => exact safe_readOnly href trivial
  | none =>
      refine safe_seq href readOnly_getOpenTill fun till => ?_
      refine safe_yields href prepareSale_owns fun prepared hprepared => ?_
      exact placeOrder_safe href hprepared.1 hprepared.2

end Checkout

end NextgenBackend.Tenancy
