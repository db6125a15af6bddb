import NextgenBackend.Inventory.Ledger
import NextgenBackend.Shared.Vat

namespace NextgenBackend.Inventory.Resolution

open Txn

-- The default context of the decimal arithmetic.
abbrev precision : Nat := 28

def scale (quantityMilli multiplier : Int) (yieldQty : Nat) : Option Int :=
  Decimal.quantizeHalfUp precision
    (Decimal.div precision (Decimal.mul precision quantityMilli multiplier) yieldQty)

def addRecipe (item : LineItemSpec) (recipe : RecipeSpec) (multiplier : Int)
    (totals : List IngredientConsumption) : Option (List IngredientConsumption) :=
  (recipe.lines.filter (lineApplies item)).foldlM (fun totals line =>
    (scale line.quantityMilli multiplier recipe.yieldQty).map fun amount =>
      if amount = 0 then totals else addConsumption totals line.ingredientId amount) totals

def addAddOn (item : LineItemSpec) (addOnRecipes : Uuid → Option RecipeSpec)
    (totals : List IngredientConsumption) (selection : AddOnSelectionSpec) :
    Option (List IngredientConsumption) :=
  (addOnRecipes selection.addOnId).elim (some totals) fun recipe =>
    addRecipe item recipe (item.quantity * max 0 selection.quantity) totals

def resolveLineItem (item : LineItemSpec) (itemRecipe : Option RecipeSpec)
    (addOnRecipes : Uuid → Option RecipeSpec) : Option (List IngredientConsumption) := do
  let base ← itemRecipe.elim (some []) fun recipe => addRecipe item recipe item.quantity []
  item.addOnSelections.foldlM (addAddOn item addOnRecipes) base

def merge (totals consumption : List IngredientConsumption) : List IngredientConsumption :=
  consumption.foldl (fun totals c => addConsumption totals c.ingredientId c.quantityMilli) totals

def resolveOrder (items : List LineItemSpec) (itemRecipes addOnRecipes : Uuid → Option RecipeSpec) :
    Option ConsumptionResult := do
  let lines ← items.foldlM (fun totals item =>
    (resolveLineItem item (itemRecipes item.menuItemId) addOnRecipes).map (merge totals)) []
  some { lines := lines
         menuItemsWithoutRecipe :=
           ((items.map (·.menuItemId)).filter fun id => (itemRecipes id).isNone).eraseDups }

structure Requirement where
  ingredientId : Uuid
  quantityMilli : Int
  multiplier : Int
  yieldQty : Nat
  yieldPositive : 0 < yieldQty

-- Each requirement is rounded by itself, before any sum is taken.
def Requirement.milli (requirement : Requirement) : Int :=
  Decimal.roundHalfUp
    ((requirement.quantityMilli * requirement.multiplier : Int) / requirement.yieldQty : ℚ)

def recipeRequirements (item : LineItemSpec) (multiplier : Int) (recipe : RecipeSpec) :
    List Requirement :=
  (recipe.lines.filter (lineApplies item)).map fun line =>
    ⟨line.ingredientId, line.quantityMilli, multiplier, recipe.yieldQty, recipe.yieldPositive⟩

def requirements (itemRecipes addOnRecipes : Uuid → Option RecipeSpec) (item : LineItemSpec) :
    List Requirement :=
  (itemRecipes item.menuItemId).elim [] (recipeRequirements item item.quantity) ++
    item.addOnSelections.flatMap fun selection =>
      (addOnRecipes selection.addOnId).elim []
        (recipeRequirements item (item.quantity * max 0 selection.quantity))

def required (itemRecipes addOnRecipes : Uuid → Option RecipeSpec) (items : List LineItemSpec)
    (ingredientId : Uuid) : Int :=
  (((items.flatMap (requirements itemRecipes addOnRecipes)).filter fun requirement =>
    requirement.ingredientId = ingredientId).map Requirement.milli).sum

def consumed (lines : List IngredientConsumption) (ingredientId : Uuid) : Int :=
  ((lines.find? fun c => c.ingredientId = ingredientId).map (·.quantityMilli)).getD 0

-- Quantities below zero never occur; the products leave the context a digit to spare.
structure Measured (requirement : Requirement) : Prop where
  quantity : 0 ≤ requirement.quantityMilli
  multiplier : 0 ≤ requirement.multiplier
  digits : requirement.quantityMilli * requirement.multiplier * 10 < 10 ^ precision

-- An ingredient is listed once, and only for a quantity taken.
structure Tidy (lines : List IngredientConsumption) : Prop where
  once : (lines.map (·.ingredientId)).Nodup
  positive : ∀ c ∈ lines, 0 < c.quantityMilli

structure Resolves (itemRecipes addOnRecipes : Uuid → Option RecipeSpec)
    (items : List LineItemSpec) (lines : List IngredientConsumption) : Prop extends Tidy lines where
  sums : ∀ ingredientId,
    consumed lines ingredientId = required itemRecipes addOnRecipes items ingredientId

structure Sold (businessId orderId : Uuid) (lines : List IngredientConsumption)
    (movements : List StockMovement) : Prop where
  negated : movements.map (fun m => (m.ingredientId, m.quantityMilli)) =
    lines.map fun c => (c.ingredientId, -c.quantityMilli)
  sale : ∀ m ∈ movements, m.businessId = businessId ∧ m.movementType = .saleConsumption ∧
    m.sourceType = some .order ∧ m.sourceId = some orderId

-- The recipes a sale of these lines resolves against.
def soldRecipes (businessId : Uuid) (items : List LineItemSpec) (db : Database) : RecipeSpecs :=
  loadRecipeSpecs businessId (items.map (·.menuItemId))
    (items.flatMap fun s => s.addOnSelections.map (·.addOnId)) db

def pairs (lines : List IngredientConsumption) : List (Uuid × Int) :=
  lines.map fun c => (c.ingredientId, c.quantityMilli)

def accrue (totals : List IngredientConsumption) (requirement : Requirement) :
    List IngredientConsumption :=
  if requirement.milli = 0 then totals
  else addConsumption totals requirement.ingredientId requirement.milli

variable {totals consumption lines : List IngredientConsumption} {item : LineItemSpec}
  {items : List LineItemSpec} {itemRecipes addOnRecipes : Uuid → Option RecipeSpec}
  {requirement : Requirement} {rs : List Requirement} {p : Uuid → Bool} {id : Uuid} {amount : Int}

theorem pairs_addConsumption :
    pairs (addConsumption totals id amount) = GroupBy.merge id amount (pairs totals) := by
  induction totals with
  | nil => rfl
  | cons c totals ih =>
      simp only [addConsumption, pairs, List.map_cons, GroupBy.merge]
      split
      · simp
      · simpa [pairs] using ih

theorem keys_pairs : (pairs lines).map (·.1) = lines.map (·.ingredientId) := by
  simp [pairs, Function.comp_def]

theorem consumed_eq (h : Tidy lines) :
    consumed lines id = GroupBy.total (fun k => k = id) (pairs lines) := by
  have hlookup : consumed lines id = GroupBy.quantity (pairs lines) id := by
    clear h
    unfold consumed GroupBy.quantity pairs
    induction lines with
    | nil => rfl
    | cons c lines ih =>
        by_cases hc : c.ingredientId = id
        · simp [hc]
        · have hkey : (id == c.ingredientId) = false := by simpa using fun heq => hc heq.symm
          simpa [hc, hkey, List.lookup] using ih
  rw [hlookup, GroupBy.quantity_eq_total (by rw [keys_pairs]; exact h.once)]

theorem milli_nonneg (h : Measured requirement) : 0 ≤ requirement.milli :=
  Decimal.roundHalfUp_nonneg
    (div_nonneg (by exact_mod_cast mul_nonneg h.quantity h.multiplier) (Nat.cast_nonneg _))

theorem milli_le (h : Measured requirement) :
    requirement.milli ≤ requirement.quantityMilli * requirement.multiplier := by
  have hnum : (0 : ℚ) ≤ (requirement.quantityMilli * requirement.multiplier : Int) := by
    exact_mod_cast mul_nonneg h.quantity h.multiplier
  have hyield : (1 : ℚ) ≤ requirement.yieldQty := by exact_mod_cast requirement.yieldPositive
  exact Decimal.roundHalfUp_le (div_nonneg hnum (Nat.cast_nonneg _)) (div_le_self hnum hyield)

theorem consumption_scale (h : Measured requirement) :
    Inventory.scale requirement.quantityMilli requirement.multiplier requirement.yieldQty =
      requirement.milli :=
  (Vat.roundHalfUp_div (mul_nonneg h.quantity h.multiplier) requirement.yieldPositive).symm

theorem scale_exact (h : Measured requirement) :
    scale requirement.quantityMilli requirement.multiplier requirement.yieldQty =
      some requirement.milli := by
  have hnum := mul_nonneg h.quantity h.multiplier
  have hlt : |requirement.quantityMilli * requirement.multiplier| < 10 ^ precision := by
    rw [abs_of_nonneg hnum]
    linarith [h.digits]
  have hmul : Decimal.mul precision requirement.quantityMilli requirement.multiplier =
      (requirement.quantityMilli * requirement.multiplier : Int) := by
    rw [Decimal.mul, ← Int.cast_mul]
    exact Decimal.fix_intCast hlt
  have hfits : |requirement.milli| < 10 ^ precision := by
    rw [abs_of_nonneg (milli_nonneg h)]
    exact (milli_le h).trans_lt ((le_abs_self _).trans_lt hlt)
  unfold scale
  rw [hmul, Decimal.div, Decimal.quantizeHalfUp,
    Decimal.roundHalfUp_fix_of_lt hnum requirement.yieldPositive h.digits]
  exact if_pos hfits

section Taken

variable {α : Type} {f : α → Uuid} {w : α → Int} {rows : List α}

theorem total_taken :
    GroupBy.total p (pairs (rows.foldl (fun totals row =>
      if w row = 0 then totals else addConsumption totals (f row) (w row)) totals)) =
      GroupBy.total p (pairs totals) + ((rows.filter fun row => p (f row)).map w).sum := by
  induction rows generalizing totals with
  | nil => simp
  | cons row rows ih =>
      rw [List.foldl_cons, ih]
      by_cases hzero : w row = 0
      · rw [if_pos hzero]
        cases hp : p (f row) <;> simp [hp, hzero]
      · rw [if_neg hzero, pairs_addConsumption, GroupBy.total_merge]
        cases hp : p (f row) <;> simp [hp, add_assoc]

theorem tidy_addConsumption (h : Tidy totals) (hpos : 0 < amount) :
    Tidy (addConsumption totals id amount) where
  once := by
    rw [← keys_pairs, pairs_addConsumption]
    exact GroupBy.nodup_merge (by rw [keys_pairs]; exact h.once)
  positive := by
    have hpositive := h.positive
    clear h
    induction totals with
    | nil => simpa [addConsumption] using hpos
    | cons c totals ih =>
        rw [List.forall_mem_cons] at hpositive
        unfold addConsumption
        split
        · rw [List.forall_mem_cons]
          exact ⟨add_pos hpositive.1 hpos, hpositive.2⟩
        · rw [List.forall_mem_cons]
          exact ⟨hpositive.1, ih hpositive.2⟩

theorem tidy_taken (h : Tidy totals) (hw : ∀ row ∈ rows, 0 ≤ w row) :
    Tidy (rows.foldl (fun totals row =>
      if w row = 0 then totals else addConsumption totals (f row) (w row)) totals) := by
  induction rows generalizing totals with
  | nil => exact h
  | cons row rows ih =>
      rw [List.forall_mem_cons] at hw
      refine ih ?_ hw.2
      dsimp only
      by_cases hzero : w row = 0
      · rwa [if_pos hzero]
      · rw [if_neg hzero]
        exact tidy_addConsumption h (by omega)

end Taken

theorem total_foldl_accrue :
    GroupBy.total p (pairs (rs.foldl accrue totals)) =
      GroupBy.total p (pairs totals) +
        ((rs.filter fun r => p r.ingredientId).map Requirement.milli).sum :=
  total_taken

theorem tidy_foldl_accrue (h : Tidy totals) (hrs : ∀ r ∈ rs, Measured r) :
    Tidy (rs.foldl accrue totals) :=
  tidy_taken h fun r hr => milli_nonneg (hrs r hr)

theorem tidy_nil : Tidy [] where
  once := List.nodup_nil
  positive := by simp

theorem total_merge :
    GroupBy.total p (pairs (merge totals consumption)) =
      GroupBy.total p (pairs totals) + GroupBy.total p (pairs consumption) := by
  unfold merge
  induction consumption generalizing totals with
  | nil => simp [pairs]
  | cons c consumption ih =>
      rw [List.foldl_cons, ih, pairs_addConsumption, GroupBy.total_merge]
      simp only [pairs, List.map_cons, GroupBy.total_cons]
      omega

theorem tidy_merge (h : Tidy totals) (hpositive : ∀ c ∈ consumption, 0 < c.quantityMilli) :
    Tidy (merge totals consumption) := by
  unfold merge
  induction consumption generalizing totals with
  | nil => exact h
  | cons c consumption ih =>
      rw [List.forall_mem_cons] at hpositive
      exact ih (tidy_addConsumption h hpositive.1) hpositive.2

-- The two folds take the same steps where every rounding is exact.
theorem folds {α β : Type} {f : β → α → Option β} {g g' : β → α → β} {rows : List α}
    (h : ∀ b, ∀ a ∈ rows, f b a = some (g b a) ∧ g' b a = g b a) (b : β) :
    rows.foldlM f b = some (rows.foldl g b) ∧ rows.foldl g' b = rows.foldl g b := by
  induction rows generalizing b with
  | nil => exact ⟨rfl, rfl⟩
  | cons a rows ih =>
      have hhead := h b a List.mem_cons_self
      have hrest := ih (fun b a ha => h b a (List.mem_cons_of_mem _ ha)) (g b a)
      simp only [List.foldlM_cons, List.foldl_cons, hhead.1, hhead.2, Option.bind_eq_bind,
        Option.bind_some]
      exact hrest

theorem addRecipe_eq {recipe : RecipeSpec} {multiplier : Int}
    (h : ∀ r ∈ recipeRequirements item multiplier recipe, Measured r) :
    addRecipe item recipe multiplier totals =
        some ((recipeRequirements item multiplier recipe).foldl accrue totals) ∧
      Inventory.addRecipe item recipe multiplier totals =
        (recipeRequirements item multiplier recipe).foldl accrue totals := by
  unfold recipeRequirements at h ⊢
  rw [List.foldl_map]
  refine folds (fun totals line hline => ?_) totals
  have hmeasured := h _ (List.mem_map_of_mem hline)
  rw [scale_exact hmeasured, consumption_scale hmeasured]
  exact ⟨rfl, rfl⟩

theorem resolveLineItem_eq (h : ∀ r ∈ requirements itemRecipes addOnRecipes item, Measured r) :
    resolveLineItem item (itemRecipes item.menuItemId) addOnRecipes =
        some ((requirements itemRecipes addOnRecipes item).foldl accrue []) ∧
      Inventory.resolveLineItem item (itemRecipes item.menuItemId) addOnRecipes =
        (requirements itemRecipes addOnRecipes item).foldl accrue [] := by
  unfold requirements at h ⊢
  rw [List.forall_mem_append] at h
  rw [List.foldl_append, List.foldl_flatMap]
  unfold resolveLineItem Inventory.resolveLineItem
  have hbase : (itemRecipes item.menuItemId).elim (some [])
          (fun recipe => addRecipe item recipe item.quantity []) =
        some (((itemRecipes item.menuItemId).elim []
          (recipeRequirements item item.quantity)).foldl accrue []) ∧
      (itemRecipes item.menuItemId).elim []
          (fun recipe => Inventory.addRecipe item recipe item.quantity []) =
        ((itemRecipes item.menuItemId).elim []
          (recipeRequirements item item.quantity)).foldl accrue [] := by
    cases hrecipe : itemRecipes item.menuItemId with
    | none => exact ⟨rfl, rfl⟩
    | some recipe => exact addRecipe_eq (by simpa [hrecipe] using h.1)
  rw [hbase.1, hbase.2]
  refine folds (fun totals selection hselection => ?_) _
  unfold addAddOn
  cases hrecipe : addOnRecipes selection.addOnId with
  | none => exact ⟨rfl, rfl⟩
  | some recipe =>
      exact addRecipe_eq fun r hr =>
        h.2 r (List.mem_flatMap.mpr ⟨selection, hselection, by simpa [hrecipe] using hr⟩)

theorem resolveOrder_eq
    (h : ∀ item ∈ items, ∀ r ∈ requirements itemRecipes addOnRecipes item, Measured r) :
    resolveOrder items itemRecipes addOnRecipes =
        some (Inventory.resolveOrder items itemRecipes addOnRecipes) ∧
      (Inventory.resolveOrder items itemRecipes addOnRecipes).lines =
        items.foldl (fun totals item =>
          merge totals ((requirements itemRecipes addOnRecipes item).foldl accrue [])) [] := by
  have hlines : items.foldlM (fun totals item =>
        (resolveLineItem item (itemRecipes item.menuItemId) addOnRecipes).map (merge totals)) [] =
      some (items.foldl (fun totals item =>
        merge totals ((requirements itemRecipes addOnRecipes item).foldl accrue [])) []) ∧
      (Inventory.resolveOrder items itemRecipes addOnRecipes).lines =
        items.foldl (fun totals item =>
          merge totals ((requirements itemRecipes addOnRecipes item).foldl accrue [])) [] := by
    refine folds (fun totals item hitem => ?_) []
    have hline := resolveLineItem_eq (h item hitem)
    rw [hline.1, hline.2]
    exact ⟨rfl, rfl⟩
  constructor
  · unfold resolveOrder
    rw [hlines.1, ← hlines.2]
    rfl
  · exact hlines.2

theorem tidy_order
    (h : ∀ item ∈ items, ∀ r ∈ requirements itemRecipes addOnRecipes item, Measured r)
    (htotals : Tidy totals) :
    Tidy (items.foldl (fun totals item =>
      merge totals ((requirements itemRecipes addOnRecipes item).foldl accrue [])) totals) := by
  induction items generalizing totals with
  | nil => exact htotals
  | cons item items ih =>
      rw [List.forall_mem_cons] at h
      exact ih h.2 (tidy_merge htotals (tidy_foldl_accrue tidy_nil h.1).positive)

theorem total_order :
    GroupBy.total p (pairs (items.foldl (fun totals item =>
        merge totals ((requirements itemRecipes addOnRecipes item).foldl accrue [])) totals)) =
      GroupBy.total p (pairs totals) +
        (((items.flatMap (requirements itemRecipes addOnRecipes)).filter fun r =>
          p r.ingredientId).map Requirement.milli).sum := by
  induction items generalizing totals with
  | nil => simp
  | cons item items ih =>
      rw [List.foldl_cons, ih, total_merge, total_foldl_accrue]
      simp [pairs, add_assoc]

theorem resolveOrder_resolves
    (h : ∀ item ∈ items, ∀ r ∈ requirements itemRecipes addOnRecipes item, Measured r) :
    Resolves itemRecipes addOnRecipes items
      (Inventory.resolveOrder items itemRecipes addOnRecipes).lines := by
  rw [(resolveOrder_eq h).2]
  refine ⟨tidy_order h tidy_nil, fun id => ?_⟩
  rw [consumed_eq (tidy_order h tidy_nil), total_order]
  simp [pairs, required]

theorem required_perm {items' : List LineItemSpec} (h : items'.Perm items) :
    required itemRecipes addOnRecipes items' id = required itemRecipes addOnRecipes items id :=
  (((h.flatMap_right _).filter _).map _).sum_eq

theorem consumed_perm {lines' : List IngredientConsumption} (h : Tidy lines) (h' : Tidy lines')
    (hconsumed : ∀ id, consumed lines' id = consumed lines id) : lines'.Perm lines := by
  have hentries : ∀ {lines : List IngredientConsumption}, Tidy lines →
      ((pairs lines).map (·.1)).Nodup ∧ ∀ entry ∈ pairs lines, entry.2 ≠ 0 := by
    intro lines h
    refine ⟨by rw [keys_pairs]; exact h.once, fun entry hentry => ?_⟩
    obtain ⟨c, hc, rfl⟩ := List.mem_map.mp hentry
    exact (h.positive c hc).ne'
  have hpairs : (pairs lines').Perm (pairs lines) := by
    refine GroupBy.perm_of_quantity (hentries h').1 (hentries h).1 (hentries h').2 (hentries h).2
      fun id => ?_
    rw [GroupBy.quantity_eq_total (hentries h').1, GroupBy.quantity_eq_total (hentries h).1,
      ← consumed_eq h', ← consumed_eq h, hconsumed]
  have hback := hpairs.map fun entry => (⟨entry.1, entry.2⟩ : IngredientConsumption)
  simpa [pairs, Function.comp_def] using hback

theorem saleMovements_sold {businessId orderId : Uuid} {userId : Option Uuid}
    {occurredAt : Instant} {ingredients : Table Ingredient} (h : Tidy lines) :
    Sold businessId orderId lines
      (saleMovements businessId orderId userId occurredAt lines ingredients) where
  negated := by
    unfold saleMovements
    rw [List.map_map]
    refine List.map_congr_left fun c hc => ?_
    have hnonneg : 0 ≤ c.quantityMilli := (h.positive c hc).le
    simp [buildMovement, hnonneg]
  sale := by
    intro m hm
    obtain ⟨c, hc, rfl⟩ := List.mem_map.mp hm
    exact ⟨rfl, rfl, rfl, rfl⟩

theorem postSaleConsumption_run (session : Session) (businessId orderId : Uuid)
    (userId : Option Uuid) (items : List LineItemSpec) (occurredAt : Instant) (db : Database) :
    ∃ session', (postSaleConsumption session businessId orderId userId items occurredAt).run db =
        (.ok session', db) ∧
      ∀ tables, session'.pending tables = appendMovements
        (saleMovements businessId orderId userId occurredAt
          (Inventory.resolveOrder items (soldRecipes businessId items db).item
            (soldRecipes businessId items db).addOn).lines db.ingredients)
        (session.pending tables) := by
  let lines := (Inventory.resolveOrder items (soldRecipes businessId items db).item
    (soldRecipes businessId items db).addOn).lines
  let movements := saleMovements businessId orderId userId occurredAt lines db.ingredients
  have hrun : (postSaleConsumption session businessId orderId userId items occurredAt).run db =
      Txn.run (if lines = [] then pure session else
        (.read fun db => db.ingredients : Handler _).bind fun ingredients =>
          pure (session.stage [] (appendMovements
            (saleMovements businessId orderId userId occurredAt lines ingredients)))) db := rfl
  by_cases hempty : lines = []
  · refine ⟨session, ?_, fun tables => ?_⟩
    · rw [hrun, if_pos hempty]
      rfl
    · change _ = appendMovements
        (saleMovements businessId orderId userId occurredAt lines db.ingredients) _
      rw [hempty]
      simp [saleMovements, appendMovements]
  · refine ⟨session.stage [] (appendMovements movements), ?_, fun tables => rfl⟩
    rw [hrun, if_neg hempty]
    rfl

theorem postSaleConsumption_posts {session : Session} {businessId orderId : Uuid}
    {userId : Option Uuid} {occurredAt : Instant} {db : Database} {recipes : RecipeSpecs}
    (hrecipes : soldRecipes businessId items db = recipes)
    (htidy : Tidy (Inventory.resolveOrder items recipes.item recipes.addOn).lines) :
    ∃ session' movements,
      (postSaleConsumption session businessId orderId userId items occurredAt).run db =
        (.ok session', db) ∧
      Sold businessId orderId (Inventory.resolveOrder items recipes.item recipes.addOn).lines
        movements ∧
      ∀ tables, session'.pending tables = appendMovements movements (session.pending tables) := by
  subst hrecipes
  obtain ⟨session', hrun, hpending⟩ :=
    postSaleConsumption_run session businessId orderId userId items occurredAt db
  exact ⟨session', _, hrun, saleMovements_sold htidy, hpending⟩

theorem order_consumption (items : List LineItemSpec) :
    (∀ itemRecipes addOnRecipes : Uuid → Option RecipeSpec,
      (∀ item ∈ items, ∀ r ∈ requirements itemRecipes addOnRecipes item, Measured r) →
      ∃ result, resolveOrder items itemRecipes addOnRecipes = some result ∧
        Resolves itemRecipes addOnRecipes items result.lines ∧
        ∀ items', items'.Perm items →
          ∃ result', resolveOrder items' itemRecipes addOnRecipes = some result' ∧
            result'.lines.Perm result.lines ∧
            ∀ id, id ∈ result'.menuItemsWithoutRecipe ↔ id ∈ result.menuItemsWithoutRecipe) ∧
    ∀ (session : Session) (businessId orderId : Uuid) (userId : Option Uuid)
        (occurredAt : Instant) (db : Database) (recipes : RecipeSpecs),
      soldRecipes businessId items db = recipes →
      (∀ item ∈ items, ∀ r ∈ requirements recipes.item recipes.addOn item, Measured r) →
      ∃ session' result movements,
        (postSaleConsumption session businessId orderId userId items occurredAt).run db =
          (.ok session', db) ∧
        resolveOrder items recipes.item recipes.addOn = some result ∧
        Sold businessId orderId result.lines movements ∧
        ∀ tables, session'.pending tables =
          appendMovements movements (session.pending tables) := by
  constructor
  · intro itemRecipes addOnRecipes h
    refine ⟨_, (resolveOrder_eq h).1, resolveOrder_resolves h, fun items' hperm => ?_⟩
    have h' : ∀ item ∈ items', ∀ r ∈ requirements itemRecipes addOnRecipes item, Measured r :=
      fun item hitem => h item (hperm.mem_iff.mp hitem)
    have hresolves := resolveOrder_resolves h
    have hresolves' := resolveOrder_resolves h'
    refine ⟨_, (resolveOrder_eq h').1, consumed_perm hresolves.toTidy hresolves'.toTidy ?_, ?_⟩
    · intro id
      rw [hresolves'.sums, hresolves.sums, required_perm hperm]
    · intro id
      simp [Inventory.resolveOrder, hperm.mem_iff]
  · intro session businessId orderId userId occurredAt db recipes hrecipes h
    obtain ⟨session', movements, hrun, hsold, hpending⟩ := postSaleConsumption_posts
      hrecipes (resolveOrder_resolves h).toTidy
    exact ⟨session', _, movements, hrun, (resolveOrder_eq h).1, hsold, hpending⟩

section Fixtures

def cheese : Uuid := 1

def pizza : LineItemSpec := ⟨7, 1, [], [⟨8, 3⟩], []⟩

def pizzaRecipe : RecipeSpec := ⟨[⟨cheese, 150, none, none⟩], 4, by decide⟩

def cheeseRecipe : RecipeSpec := ⟨[⟨cheese, 50, none, none⟩], 1, by decide⟩

def pizzeria : Database where
  recipes := [
    { id := 1, businessId := 1, menuItemId := some 7, menuAddOnId := none, isActive := true
      yieldQty := 4, yieldPositive := by decide, items := [⟨cheese, 150, none, none, 0, none⟩] },
    { id := 2, businessId := 1, menuItemId := none, menuAddOnId := some 8, isActive := true
      yieldQty := 1, yieldPositive := by decide, items := [⟨cheese, 50, none, none, 0, none⟩] }]
  ingredients := [
    { id := cheese, businessId := 1, name := "Mozzarella", canonicalUnit := .gram
      costPerCanonicalMicroCents := 12000000 }]
  now := 0
  valid := Tables.violation_eq_none.mp (by decide +kernel)

def recipes : RecipeSpecs := ⟨[(7, pizzaRecipe)], [(8, cheeseRecipe)]⟩

theorem pizzeria_recipes : soldRecipes 1 [pizza] pizzeria = recipes := by
  simp [soldRecipes, loadRecipeSpecs, pizzeria, pizza, recipeSpec, recipes, pizzaRecipe,
    cheeseRecipe]

theorem pizza_requirements : requirements recipes.item recipes.addOn pizza =
    [⟨cheese, 150, 1, 4, by decide⟩, ⟨cheese, 50, 3, 1, by decide⟩] := by
  rfl

theorem pizza_measured : ∀ item ∈ [pizza],
    ∀ r ∈ requirements recipes.item recipes.addOn item, Measured r := by
  rw [List.forall_mem_singleton, pizza_requirements, List.forall_mem_cons,
    List.forall_mem_singleton]
  constructor <;> constructor <;> decide

-- Thirty-seven and a half milligrams round up before the add-on is counted.
theorem pizza_required : required recipes.item recipes.addOn [pizza] cheese = 188 := by
  have hbase : Decimal.roundHalfUp (150 / 4) = 38 := by
    rw [Decimal.roundHalfUp_eq_iff (by norm_num)]
    norm_num
  have hadded : Decimal.roundHalfUp 150 = 150 := by
    rw [Decimal.roundHalfUp_eq_iff (by norm_num)]
    norm_num
  simp [required, pizza_requirements, Requirement.milli, hbase, hadded]

theorem pizza_consumes_cheese :
    ∃ result, resolveOrder [pizza] recipes.item recipes.addOn = some result ∧
      consumed result.lines cheese = 188 ∧
      ∃ session' sold movements,
        (postSaleConsumption {} 1 9 none [pizza] 0).run pizzeria = (.ok session', pizzeria) ∧
        resolveOrder [pizza] recipes.item recipes.addOn = some sold ∧
        Sold 1 9 sold.lines movements := by
  obtain ⟨hresolves, hposts⟩ := order_consumption [pizza]
  obtain ⟨result, hresult, hsums, -⟩ := hresolves recipes.item recipes.addOn pizza_measured
  obtain ⟨session', sold, movements, hrun, hsold, hmovements, -⟩ :=
    hposts {} 1 9 none 0 pizzeria recipes pizzeria_recipes pizza_measured
  refine ⟨result, hresult, ?_, session', sold, movements, hrun, hsold, hmovements⟩
  rw [hsums.sums, pizza_required]

-- A batch so large that a quotient just under a half is stored as the half.
def batchRecipe : RecipeSpec := ⟨[⟨cheese, 10000000000000, none, none⟩], 100000000000001, by decide⟩

def batch : LineItemSpec := ⟨7, 100000000000006, [], [], []⟩

theorem batch_quotient :
    Decimal.fix precision (1000000000000060000000000000 / 100000000000001) =
      10000000000000 + 1 / 2 := by
  have hulp : Decimal.ulp precision (1000000000000060000000000000 / 100000000000001) =
      1 / 10 ^ 14 := by
    rw [Decimal.ulp_eq (e := 13) (by norm_num) (by norm_num)]
    norm_num
  have hround : Decimal.roundHalfEven
      (1000000000000060000000000000 / 100000000000001 / (1 / 10 ^ 14)) =
        1000000000000050000000000000 :=
    Decimal.roundHalfEven_eq (by norm_num [abs_lt])
  rw [Decimal.fix, hulp, hround]
  norm_num

theorem batch_scale :
    scale 10000000000000 100000000000006 100000000000001 = some 10000000000001 := by
  have hmul : Decimal.mul precision (10000000000000 : Int) (100000000000006 : Int) =
      (1000000000000060000000000000 : Int) := by
    rw [Decimal.mul, ← Int.cast_mul]
    exact Decimal.fix_intCast (by decide)
  have hround : Decimal.roundHalfUp (10000000000000 + 1 / 2) = 10000000000001 := by
    rw [Decimal.roundHalfUp_eq_iff (by norm_num)]
    norm_num
  have hdiv : Decimal.div precision (1000000000000060000000000000 : Int)
      (100000000000001 : Nat) = 10000000000000 + 1 / 2 := by
    exact_mod_cast batch_quotient
  rw [scale, hmul, hdiv, Decimal.quantizeHalfUp, hround]
  decide

theorem batch_required :
    required (fun _ => some batchRecipe) (fun _ => none) [batch] cheese = 10000000000000 := by
  have hround : Decimal.roundHalfUp
      (1000000000000060000000000000 / 100000000000001) = 10000000000000 := by
    rw [Decimal.roundHalfUp_eq_iff (by norm_num)]
    norm_num
  simp [required, requirements, recipeRequirements, batch, batchRecipe, lineApplies,
    Requirement.milli, hround]

theorem batch_resolved :
    resolveOrder [batch] (fun _ => some batchRecipe) (fun _ => none) =
      some ⟨[⟨cheese, 10000000000001⟩], []⟩ := by
  have hline : batchRecipe.lines.filter (lineApplies batch) = batchRecipe.lines := by decide
  simp [resolveOrder, resolveLineItem, addRecipe, hline]
  simp [batch, batchRecipe, batch_scale, merge, addConsumption]

-- A line sold the wrong way round consumes less than nothing.
def returned : LineItemSpec := ⟨7, -2, [], [], []⟩

theorem returned_resolved :
    resolveOrder [returned] (fun _ => some cheeseRecipe) (fun _ => none) =
      some ⟨[⟨cheese, -100⟩], []⟩ := by
  have hline : cheeseRecipe.lines.filter (lineApplies returned) = cheeseRecipe.lines := by decide
  have hscale : scale 50 (-2) 1 = some (-100) := by
    have hmul : Decimal.mul precision (50 : Int) (-2 : Int) = (-100 : Int) := by
      rw [Decimal.mul, ← Int.cast_mul]
      exact Decimal.fix_intCast (by decide)
    have hdiv : Decimal.div precision (-100 : Int) (1 : Nat) = (-100 : Int) := by
      rw [Decimal.div, Nat.cast_one, div_one]
      exact Decimal.fix_intCast (by decide)
    have hround : Decimal.roundHalfUp (-100 : Int) = -100 := by
      norm_num [Decimal.roundHalfUp]
    rw [scale, hmul, hdiv, Decimal.quantizeHalfUp, hround]
    decide
  simp [resolveOrder, resolveLineItem, addRecipe, hline]
  simp [returned, cheeseRecipe, hscale, merge, addConsumption]

theorem lines_resolved_otherwise :
    (∃ result, resolveOrder [batch] (fun _ => some batchRecipe) (fun _ => none) = some result ∧
      consumed result.lines cheese ≠
        required (fun _ => some batchRecipe) (fun _ => none) [batch] cheese) ∧
    ∃ result, resolveOrder [returned] (fun _ => some cheeseRecipe) (fun _ => none) = some result ∧
      ∃ c ∈ result.lines, c.quantityMilli < 0 := by
  refine ⟨⟨_, batch_resolved, ?_⟩, _, returned_resolved, ⟨cheese, -100⟩, by simp, by decide⟩
  rw [batch_required]
  decide

end Fixtures

end NextgenBackend.Inventory.Resolution
