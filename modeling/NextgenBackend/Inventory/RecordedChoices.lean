import NextgenBackend.Bot.OrderCreator
import NextgenBackend.Inventory.Resolution

namespace NextgenBackend.RecordedChoices

open Txn Inventory

open Inventory.Resolution (pairs)

-- A line of a till sale, of an import or of a marketplace order, or one of the bot's cart.
inductive RecordedLine where
  | sold (item : Pos.ResolvedPOSItem)
  | cart (item : CartItem)

namespace RecordedLine

def menuItemId : RecordedLine → Uuid
  | sold item => item.menuItemId
  | cart item => item.menuItemId

def quantity : RecordedLine → Int
  | sold item => item.breakdown.quantity
  | cart item => item.breakdown.quantity

def options : RecordedLine → List SelectedOption
  | sold item => item.selectedOptionsSnapshot
  | cart item => item.selectedOptions

def addOns : RecordedLine → List SelectedAddOn
  | sold item => item.addOnsSnapshot
  | cart item => item.addOns

-- The bot records no removal.
def removed : RecordedLine → List String
  | sold item => item.removedIngredientsSnapshot.map (·.id)
  | cart _ => []

def spec : RecordedLine → LineItemSpec
  | sold item => lineSpec item
  | cart item => Bot.cartLineSpec item

-- The recorded options name each group once; ids are not blank and quantities above zero.
structure OneEach (line : RecordedLine) : Prop where
  groups : (line.options.map (·.groupId)).Nodup
  named : ∀ o ∈ line.options, o.groupId ≠ "" ∧ o.optionId ≠ ""
  quantity : 0 < line.quantity
  addOns : ∀ a ∈ line.addOns, 0 < a.quantity

-- The option of a recipe line is among those recorded, whatever group it was recorded under.
structure Takes (line : RecordedLine) (r : RecipeLineSpec) : Prop where
  option : ∀ o ∈ r.optionId, ∃ choice ∈ line.options, choice.optionId = o
  kept : ∀ ref ∈ r.removableRefId, ref ≠ "" → ref ∉ line.removed

def takes (line : RecordedLine) (r : RecipeLineSpec) : Bool :=
  (r.optionId.all fun o => line.options.any fun choice => choice.optionId = o) &&
    !(r.removableRefId.any fun ref => ref ≠ "" && line.removed.contains ref)

def portions (line : RecordedLine) (count : Int) (id : Uuid) (recipe : RecipeSpec) : Int :=
  (((recipe.lines.filter line.takes).filter fun r => r.ingredientId = id).map fun r =>
    scale r.quantityMilli (line.quantity * count) recipe.yieldQty).sum

-- What the recorded choices take of an ingredient: the item itself, and each add-on in its
-- recorded quantity.
def consumes (recipes : RecipeSpecs) (line : RecordedLine) (id : Uuid) : Int :=
  (recipes.item line.menuItemId).elim 0 (line.portions 1 id) +
    (line.addOns.map fun a => (recipes.addOn a.addOnId).elim 0 (line.portions a.quantity id)).sum

end RecordedLine

def movedMilli (movements : List StockMovement) (id : Uuid) : Int :=
  ((movements.filter fun m => m.ingredientId = id).map (·.quantityMilli)).sum

section Choices

variable {line : RecordedLine} {r : RecipeLineSpec} {recipe : RecipeSpec} {id : Uuid}
  {entries : List (String × String)} {snapshot : List SelectedOption} {name value : String}

theorem takes_iff : line.takes r = true ↔ line.Takes r := by
  unfold RecordedLine.takes
  rw [Bool.and_eq_true]
  constructor
  · rintro ⟨hoption, hkept⟩
    refine ⟨fun o ho => ?_, fun ref href hne hmem => ?_⟩
    · rw [Option.mem_def.mp ho] at hoption
      simpa using hoption
    · rw [Option.mem_def.mp href] at hkept
      simp [hne, hmem] at hkept
  · rintro ⟨hoption, hkept⟩
    constructor
    · cases ho : r.optionId with
      | none => rfl
      | some o => simpa using hoption o ho
    · cases href : r.removableRefId with
      | none => rfl
      | some ref =>
          have hnot := hkept ref href
          by_cases hne : ref = ""
          · simp [hne]
          · simp [hnot hne]

theorem setEntry_append (h : name ∉ entries.map (·.1)) :
    setEntry entries name value = entries ++ [(name, value)] := by
  induction entries with
  | nil => rfl
  | cons e entries ih =>
      rw [List.map_cons, List.mem_cons, not_or] at h
      rw [setEntry, if_neg fun heq => h.1 heq.symm, ih h.2]
      rfl

theorem selectedOptionIds_eq (hgroups : (snapshot.map (·.groupId)).Nodup)
    (hnamed : ∀ o ∈ snapshot, o.groupId ≠ "" ∧ o.optionId ≠ "") :
    selectedOptionIds snapshot = snapshot.map fun o => (o.groupId, o.optionId) := by
  have hfold : ∀ entries : List (String × String),
      (entries.map (·.1) ++ snapshot.map (·.groupId)).Nodup →
      snapshot.foldl (fun selected o =>
        if o.groupId ≠ "" ∧ o.optionId ≠ "" then setEntry selected o.groupId o.optionId
        else selected) entries = entries ++ snapshot.map fun o => (o.groupId, o.optionId) := by
    clear hgroups
    induction snapshot with
    | nil => simp
    | cons o snapshot ih =>
        intro entries hnodup
        rw [List.forall_mem_cons] at hnamed
        have hnew : o.groupId ∉ entries.map (·.1) := fun hmem =>
          (List.nodup_append.mp hnodup).2.2 _ hmem _ (by simp) rfl
        rw [List.foldl_cons, if_pos hnamed.1, setEntry_append hnew, ih hnamed.2]
        · simp
        · simpa using hnodup
  exact (hfold [] (by simpa using hgroups)).trans (List.nil_append _)

theorem spec_options (h : line.OneEach) :
    line.spec.selectedOptionIds = line.options.map (·.optionId) := by
  have hids := congrArg (List.map (·.2)) (selectedOptionIds_eq h.groups h.named)
  rw [List.map_map] at hids
  cases line with
  | sold item => exact hids
  | cart item => exact hids

theorem spec_removed : line.spec.removedRefIds = line.removed.filter (· ≠ "") := by
  cases line <;> rfl

theorem spec_quantity (h : line.OneEach) : line.spec.quantity = line.quantity := by
  cases line with
  | sold item => rfl
  | cart item => exact if_neg h.quantity.ne'

theorem spec_addOns (h : line.OneEach) :
    line.spec.addOnSelections = line.addOns.map fun a => ⟨a.addOnId, a.quantity⟩ := by
  have hselections : line.spec.addOnSelections =
      line.addOns.map fun a => ⟨a.addOnId, if a.quantity = 0 then 1 else a.quantity⟩ := by
    cases line <;> rfl
  rw [hselections]
  exact List.map_congr_left fun a ha => by rw [if_neg (h.addOns a ha).ne']

theorem lineApplies_spec (h : line.OneEach) : lineApplies line.spec r = line.takes r := by
  unfold lineApplies RecordedLine.takes
  rw [spec_options h, spec_removed, Bool.and_comm]
  congr 1
  · cases r.optionId with
    | none => rfl
    | some o => simp [List.any_eq]
  · cases r.removableRefId with
    | none => rfl
    | some ref =>
        by_cases hne : ref = ""
        · simp [hne]
        · simp [hne]

end Choices

section Consumption

variable {line : RecordedLine} {lines : List RecordedLine} {recipe : RecipeSpec} {id : Uuid}
  {recipes : RecipeSpecs} {totals consumed : List IngredientConsumption} {count : Int}
  {businessId orderId : Uuid} {staff : Option Uuid} {at' : Instant} {ingredients : Table Ingredient}

abbrev of (id : Uuid) (totals : List IngredientConsumption) : Int :=
  GroupBy.total (fun k => k = id) (pairs totals)

theorem of_addRecipe (h : line.OneEach) :
    of id (addRecipe line.spec recipe (line.quantity * count) totals) =
      of id totals + line.portions count id recipe := by
  unfold addRecipe RecordedLine.portions
  rw [show lineApplies line.spec = line.takes from funext fun r => lineApplies_spec h]
  exact Resolution.total_taken

theorem of_addOns (h : line.OneEach) (as : List SelectedAddOn) (has : ∀ a ∈ as, 0 < a.quantity) :
    of id ((as.map fun a => (⟨a.addOnId, a.quantity⟩ : AddOnSelectionSpec)).foldl
        (fun totals selection => (recipes.addOn selection.addOnId).elim totals fun recipe =>
          addRecipe line.spec recipe (line.spec.quantity * max 0 selection.quantity) totals) totals) =
      of id totals +
        (as.map fun a => (recipes.addOn a.addOnId).elim 0 (line.portions a.quantity id)).sum := by
  induction as generalizing totals with
  | nil => simp
  | cons a as ih =>
      rw [List.forall_mem_cons] at has
      rw [List.map_cons, List.foldl_cons, ih has.2, List.map_cons, List.sum_cons, ← add_assoc]
      congr 1
      cases recipes.addOn a.addOnId with
      | none => simp
      | some recipe =>
          rw [spec_quantity h, max_eq_right has.1.le]
          exact of_addRecipe h

theorem of_resolveLineItem (h : line.OneEach) :
    of id (resolveLineItem line.spec (recipes.item line.menuItemId) recipes.addOn) =
      line.consumes recipes id := by
  unfold resolveLineItem RecordedLine.consumes
  rw [spec_addOns h]
  refine (of_addOns h line.addOns h.addOns).trans ?_
  congr 1
  cases recipes.item line.menuItemId with
  | none => rfl
  | some recipe =>
      have hbase : of id (addRecipe line.spec recipe (line.quantity * 1) []) =
          of id [] + line.portions 1 id recipe := of_addRecipe h
      rw [mul_one, ← spec_quantity h] at hbase
      exact hbase.trans (zero_add _)

theorem of_resolveOrder (h : ∀ line ∈ lines, line.OneEach) :
    of id (resolveOrder (lines.map RecordedLine.spec) recipes.item recipes.addOn).lines =
      (lines.map fun line => line.consumes recipes id).sum := by
  have hfold : ∀ totals, of id ((lines.map RecordedLine.spec).foldl (fun totals item =>
      Resolution.merge totals (resolveLineItem item (recipes.item item.menuItemId) recipes.addOn))
        totals) = of id totals + (lines.map fun line => line.consumes recipes id).sum := by
    induction lines with
    | nil => simp
    | cons line lines ih =>
        rw [List.forall_mem_cons] at h
        intro totals
        have hitem : line.spec.menuItemId = line.menuItemId := by cases line <;> rfl
        rw [List.map_cons, List.foldl_cons, ih h.2, List.map_cons, List.sum_cons, ← add_assoc,
          of, Resolution.total_merge, hitem, ← of, ← of, of_resolveLineItem h.1]
  exact (hfold []).trans (zero_add _)

theorem nodup_merge (h : (totals.map (·.ingredientId)).Nodup) :
    ((Resolution.merge totals consumed).map (·.ingredientId)).Nodup := by
  unfold Resolution.merge
  induction consumed generalizing totals with
  | nil => exact h
  | cons c consumed ih =>
      refine ih ?_
      rw [← Resolution.keys_pairs, Resolution.pairs_addConsumption]
      exact GroupBy.nodup_merge (by rw [Resolution.keys_pairs]; exact h)

theorem nodup_resolveOrder {items : List LineItemSpec}
    {itemRecipes addOnRecipes : Uuid → Option RecipeSpec} :
    ((resolveOrder items itemRecipes addOnRecipes).lines.map (·.ingredientId)).Nodup := by
  have hfold : ∀ totals : List IngredientConsumption, (totals.map (·.ingredientId)).Nodup →
      ((items.foldl (fun totals item => Resolution.merge totals
        (resolveLineItem item (itemRecipes item.menuItemId) addOnRecipes)) totals).map
          (·.ingredientId)).Nodup := by
    induction items with
    | nil => exact fun _ h => h
    | cons item items ih => exact fun totals h => ih _ (nodup_merge h)
  exact hfold [] List.nodup_nil

-- The ledger gets one movement for each ingredient.
theorem movedMilli_sale (h : (totals.map (·.ingredientId)).Nodup) :
    movedMilli (saleMovements businessId orderId staff at' totals ingredients) id =
      -|of id totals| := by
  induction totals with
  | nil => rfl
  | cons c totals ih =>
      obtain ⟨hnot, hnodup⟩ := List.nodup_cons.mp h
      have hof : of id (c :: totals) = (if c.ingredientId = id then c.quantityMilli else 0) +
          of id totals := by
        simp [of, pairs, GroupBy.total_cons]
      have hmoved : movedMilli (saleMovements businessId orderId staff at' (c :: totals) ingredients)
          id = (if c.ingredientId = id then -(c.quantityMilli.natAbs : Int) else 0) +
            movedMilli (saleMovements businessId orderId staff at' totals ingredients) id := by
        by_cases hc : c.ingredientId = id
        · simp [movedMilli, saleMovements, buildMovement, hc]
        · simp [movedMilli, saleMovements, buildMovement, hc]
      rw [hmoved, ih hnodup, hof]
      by_cases hc : c.ingredientId = id
      · have hzero : of id totals = 0 :=
          GroupBy.total_eq_zero (by rw [Resolution.keys_pairs]; exact hc ▸ hnot)
        simp [hc, hzero]
      · simp [hc]

-- A sale of recorded lines moves of each ingredient what their choices take.
theorem choices_decide (lines : List RecordedLine) (h : ∀ line ∈ lines, line.OneEach)
    (session : Session) (businessId orderId : Uuid) (staff : Option Uuid) (at' : Instant)
    (db : Database) (recipes : RecipeSpecs)
    (hrecipes : Resolution.soldRecipes businessId (lines.map RecordedLine.spec) db = recipes) :
    (∃ session' movements,
      (postSaleConsumption session businessId orderId staff (lines.map RecordedLine.spec) at').run db =
        (.ok session', db) ∧
      (∀ tables, session'.pending tables = appendMovements movements (session.pending tables)) ∧
      ∀ id, movedMilli movements id = -|(lines.map fun line => line.consumes recipes id).sum|) ∧
    ∀ line ∈ lines,
      (∀ choice ∈ line.options, choice.optionId ∈ line.spec.selectedOptionIds) ∧
      (∀ r, lineApplies line.spec r = true ↔ line.Takes r) ∧
      line.spec.addOnSelections = line.addOns.map fun a => ⟨a.addOnId, a.quantity⟩ := by
  subst hrecipes
  constructor
  · obtain ⟨session', hrun, hpending⟩ := Resolution.postSaleConsumption_run session businessId
      orderId staff (lines.map RecordedLine.spec) at' db
    refine ⟨session', _, hrun, hpending, fun id => ?_⟩
    rw [movedMilli_sale nodup_resolveOrder, of_resolveOrder h]
  · intro line hline
    refine ⟨fun choice hchoice => ?_, fun r => ?_, spec_addOns (h line hline)⟩
    · rw [spec_options (h line hline)]
      exact List.mem_map_of_mem hchoice
    · rw [lineApplies_spec (h line hline), takes_iff]

end Consumption

section Channels

end Channels

section Fixtures

def choice (groupId optionId : String) : SelectedOption := ⟨groupId, groupId, optionId, optionId, 0⟩

def pizza (options : List SelectedOption) (addOns : List SelectedAddOn) : RecordedLine :=
  .cart
    { menuItemId := 7
      name := "Pizza"
      breakdown := ⟨9000, 0, 0, 9000, 2, 18000⟩
      selectedOptions := options
      addOns := addOns
      specialInstructions := none }

def cheesy : RecordedLine := pizza [choice "size" "large"] [⟨8, "Extra cheese", 500, 3⟩]

theorem cheesy_oneEach : ∀ line ∈ [cheesy], line.OneEach := by
  rw [List.forall_mem_singleton]
  exact ⟨by decide, by decide, by decide, by decide⟩

theorem cheesy_decides : ∃ session' movements,
    (postSaleConsumption {} 1 9 none ([cheesy].map RecordedLine.spec) 0).run Resolution.pizzeria =
      (.ok session', Resolution.pizzeria) ∧
    (∀ tables, session'.pending tables = appendMovements movements tables) ∧
    ∀ id, movedMilli movements id = -|([cheesy].map fun line => line.consumes
      (Resolution.soldRecipes 1 ([cheesy].map RecordedLine.spec) Resolution.pizzeria) id).sum| :=
  (choices_decide [cheesy] cheesy_oneEach {} 1 9 none 0 Resolution.pizzeria _ rfl).1

-- A recipe line for the small size of the pizza.
def smallSize : RecipeItem := ⟨1, 100, some "small", none, 0, some "size"⟩

def smallRecipe : Recipe where
  id := 1
  businessId := 1
  menuItemId := some 7
  menuAddOnId := none
  isActive := true
  yieldQty := 1
  yieldPositive := Nat.one_pos
  items := [smallSize]

theorem choices_confused :
    (∃ c ∈ (pizza [choice "size" "small", choice "size" "large"] []).options,
      c.optionId ∉ (pizza [choice "size" "small", choice "size" "large"] []).spec.selectedOptionIds) ∧
    (∀ r ∈ smallRecipe.items, ∀ c ∈ (pizza [choice "drink" "small"] []).options,
      r.optionGroupId ≠ some c.groupId) ∧
    ((recipeSpec smallRecipe).lines.filter
      (lineApplies (pizza [choice "drink" "small"] []).spec)).length = 1 := by
  have hlines : (recipeSpec smallRecipe).lines = [⟨1, 100, some "small", none⟩] := by
    simp [recipeSpec, smallRecipe, smallSize]
  rw [hlines]
  decide

end Fixtures

end NextgenBackend.RecordedChoices
