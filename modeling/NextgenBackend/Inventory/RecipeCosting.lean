import Mathlib
import NextgenBackend.Api.RoutesInventory
import NextgenBackend.Api.RoutesRecipes
import NextgenBackend.Inventory.Resolution

namespace NextgenBackend.RecipeCosting

open Txn Inventory RoutesRecipes

open Inventory.Resolution (Tidy pairs)

-- What the costing page shows of a recipe, by itself or in the list of them.
def Displayed (user : AuthUser) (db : Database) (response : RecipeResponse) : Prop :=
  (∃ menuItemId, (getRecipeForMenuItem user menuItemId).run db = (.ok response, db)) ∨
    ∃ responses, (listRecipes user).run db = (.ok responses, db) ∧ response ∈ responses

-- The partial index: a menu item has one active recipe.
def UqRecipesActiveMenuItem (t : Tables) : Prop :=
  t.recipes.Unique fun r => if r.isActive then r.menuItemId else none

instance (t : Tables) : Decidable (UqRecipesActiveMenuItem t) :=
  inferInstanceAs (Decidable (Table.Unique _ _))

def oneUnit (menuItemId : Uuid) (chosen : List String) : LineItemSpec where
  menuItemId := menuItemId
  quantity := 1
  selectedOptionIds := chosen
  addOnSelections := []
  removedRefIds := []

def consumedCents (movements : List StockMovement) : Cents :=
  |(movements.map (·.valueCents)).sum|

def applying (chosen : List String) (lines : List RecipeItemResponse) : List RecipeItemResponse :=
  lines.filter fun line => (scopedTo line).all chosen.contains

-- Half a cent for each line of an ingredient, and none where it has one line.
def halves (lines : List RecipeItemResponse) : Cents :=
  ∑ id ∈ (lines.map fun line => line.item.ingredientId).toFinset,
    ((lines.filter fun line => line.item.ingredientId = id).length : Int) / 2

-- One option at most, among those that lines are scoped to.
def OneChoice (chosen : List String) (lines : List RecipeItemResponse) : Prop :=
  ∀ line ∈ lines, ∀ line' ∈ lines, ∀ o ∈ scopedTo line, ∀ o' ∈ scopedTo line',
    o ∈ chosen → o' ∈ chosen → o = o'

structure Priced (response : RecipeResponse) (db : Database) : Prop where
  quantity : ∀ line ∈ response.items, 0 ≤ line.item.quantityMilli
  scope : ∀ line ∈ response.items, line.item.optionId ≠ some ""
  cost : ∀ i ∈ db.ingredients, 0 ≤ i.costPerCanonicalMicroCents

structure Agrees (response : RecipeResponse) (chosen : List String)
    (movements : List StockMovement) : Prop where
  lines : |((applying chosen response.items).map (·.costCents)).sum - consumedCents movements| ≤
    halves (applying chosen response.items)
  base : chosen = [] → |response.baseFoodCostCents - consumedCents movements| ≤
    halves (applying [] response.items)
  maximum : OneChoice chosen response.items → consumedCents movements ≤
    response.maxFoodCostCents + halves (applying chosen response.items)
  exact : ((applying chosen response.items).map fun line => line.item.ingredientId).Nodup →
    halves (applying chosen response.items) = 0

section Rounding

variable {ns : List Int} {d : Nat}

theorem roundHalfUp_bounds {n : Int} (hd : 0 < d) (hn : 0 ≤ n) :
    2 * d * Pricing.roundHalfUp n d ≤ 2 * n + d ∧ 2 * n + d < 2 * d * Pricing.roundHalfUp n d + 2 * d := by
  rw [Pricing.roundHalfUp, if_pos hn]
  have hdiv := Int.mul_ediv_add_emod (2 * n + d) (2 * d)
  have hpos := Int.emod_nonneg (2 * n + d) (b := 2 * d) (by omega)
  have hlt := Int.emod_lt_of_pos (2 * n + d) (b := 2 * d) (by omega)
  constructor <;> linarith

theorem roundHalfUp_nonneg {n : Int} (hn : 0 ≤ n) : 0 ≤ Pricing.roundHalfUp n d := by
  rw [Pricing.roundHalfUp, if_pos hn]
  exact Int.ediv_nonneg (by omega) (by omega)

theorem sum_bounds (hd : 0 < d) (hns : ∀ n ∈ ns, 0 ≤ n) :
    2 * d * (ns.map fun n => Pricing.roundHalfUp n d).sum ≤ 2 * ns.sum + d * ns.length ∧
      2 * ns.sum + ns.length ≤
        2 * d * (ns.map fun n => Pricing.roundHalfUp n d).sum + d * ns.length := by
  induction ns with
  | nil => simp
  | cons n ns ih =>
      rw [List.forall_mem_cons] at hns
      obtain ⟨hlow, hhigh⟩ := roundHalfUp_bounds hd hns.1
      obtain ⟨hsumLow, hsumHigh⟩ := ih hns.2
      simp only [List.map_cons, List.sum_cons, List.length_cons, Nat.cast_add, Nat.cast_one]
      constructor <;> linarith

-- Rounding the parts and rounding the whole are apart by half a unit for each part.
theorem rounded_sum_close (hd : 0 < d) (hns : ∀ n ∈ ns, 0 ≤ n) :
    |(ns.map fun n => Pricing.roundHalfUp n d).sum - Pricing.roundHalfUp ns.sum d| ≤
      (ns.length : Int) / 2 := by
  obtain ⟨hlow, hhigh⟩ := roundHalfUp_bounds hd (List.sum_nonneg hns)
  obtain ⟨hsumLow, hsumHigh⟩ := sum_bounds hd hns
  have hd' : (0 : Int) < d := by exact_mod_cast hd
  generalize (ns.map fun n => Pricing.roundHalfUp n d).sum = parts at *
  generalize Pricing.roundHalfUp ns.sum d = whole at *
  have hupper : 2 * (parts - whole) < ns.length + 1 :=
    lt_of_mul_lt_mul_left (by linarith) hd'.le
  have hlower : 2 * (whole - parts) < ns.length + 1 := by
    cases ns with
    | nil =>
        have hle : 2 * (whole - parts) ≤ 1 := by
          refine le_of_mul_le_mul_left ?_ hd'
          simp only [List.sum_nil, List.length_nil, Nat.cast_zero] at *
          linarith
        simp only [List.length_nil] at *
        omega
    | cons n ns =>
        refine lt_of_mul_lt_mul_left ?_ hd'.le
        have hpos : (0 : Int) < (n :: ns).length := by simp
        linarith
  rw [abs_le]
  constructor <;> omega

end Rounding

section Sale

variable {lines : List IngredientConsumption} {menuItemId businessId orderId : Uuid}
  {chosen : List String} {spec : RecipeSpec} {itemRecipes addOnRecipes : Uuid → Option RecipeSpec}
  {staff : Option Uuid} {at' : Instant} {ingredients : Table Ingredient}

theorem resolved_unit (chosen : List String) (addOnRecipes : Uuid → Option RecipeSpec)
    (hspec : itemRecipes menuItemId = some spec)
    (hlines : ∀ line ∈ spec.lines, 0 ≤ line.quantityMilli) :
    Tidy (resolveOrder [oneUnit menuItemId chosen] itemRecipes addOnRecipes).lines ∧
      ∀ p, GroupBy.total p
          (pairs (resolveOrder [oneUnit menuItemId chosen] itemRecipes addOnRecipes).lines) =
        (((spec.lines.filter (lineApplies (oneUnit menuItemId chosen))).filter fun line =>
          p line.ingredientId).map fun line => scale line.quantityMilli 1 spec.yieldQty).sum := by
  have hresolved : (resolveOrder [oneUnit menuItemId chosen] itemRecipes addOnRecipes).lines =
      Resolution.merge []
        (addRecipe (oneUnit menuItemId chosen) spec (oneUnit menuItemId chosen).quantity []) := by
    change Resolution.merge []
      (resolveLineItem _ (itemRecipes menuItemId) addOnRecipes) = _
    rw [hspec]
    rfl
  have htidy : Tidy
      (addRecipe (oneUnit menuItemId chosen) spec (oneUnit menuItemId chosen).quantity []) := by
    refine Resolution.tidy_taken Resolution.tidy_nil fun line hline => ?_
    have hnonneg := hlines line (List.mem_of_mem_filter hline)
    exact roundHalfUp_nonneg (by simpa [oneUnit] using hnonneg)
  rw [hresolved]
  refine ⟨Resolution.tidy_merge Resolution.tidy_nil htidy.positive, fun p => ?_⟩
  rw [Resolution.total_merge]
  exact (congrArg _ Resolution.total_taken).trans (by simp [pairs, oneUnit])

theorem ingredientCost_nonneg {id : Uuid}
    (hcosts : ∀ i ∈ ingredients, 0 ≤ i.costPerCanonicalMicroCents) :
    0 ≤ ingredientCost businessId ingredients id := by
  unfold ingredientCost
  cases hrow : (ingredients.lookup id).filter fun i => i.businessId = businessId with
  | none => exact le_refl _
  | some i => exact hcosts i (Table.lookup_mem (Option.filter_eq_some_iff.mp hrow).1)

theorem consumedCents_sale (h : Tidy lines)
    (hcosts : ∀ i ∈ ingredients, 0 ≤ i.costPerCanonicalMicroCents) :
    consumedCents (saleMovements businessId orderId staff at' lines ingredients) =
      (lines.map fun c =>
        valueCents c.quantityMilli (ingredientCost businessId ingredients c.ingredientId)).sum := by
  have hvalues : (saleMovements businessId orderId staff at' lines ingredients).map (·.valueCents) =
      (lines.map fun c =>
        valueCents c.quantityMilli
          (ingredientCost businessId ingredients c.ingredientId)).map fun v => -v := by
    unfold saleMovements
    rw [List.map_map, List.map_map]
    refine List.map_congr_left fun c hc => ?_
    have habs : (c.quantityMilli.natAbs : Int) = c.quantityMilli :=
      Int.natAbs_of_nonneg (h.positive c hc).le
    simp only [Function.comp_apply, buildMovement, habs, valueCents_neg]
  have hnonneg : 0 ≤ (lines.map fun c =>
      valueCents c.quantityMilli (ingredientCost businessId ingredients c.ingredientId)).sum := by
    refine List.sum_nonneg fun v hv => ?_
    obtain ⟨c, hc, rfl⟩ := List.mem_map.mp hv
    exact roundHalfUp_nonneg (mul_nonneg (h.positive c hc).le (ingredientCost_nonneg hcosts))
  rw [consumedCents, hvalues, ← List.sum_neg, abs_neg, abs_of_nonneg hnonneg]

end Sale

section Agreement

variable {recipe : Recipe} {ingredients : List Ingredient} {chosen : List String}
  {businessId menuItemId : Uuid} {db : Database} {items lines : List RecipeItemResponse}

def portion (yieldQty : Nat) (line : RecipeItemResponse) : Int :=
  perPortionQuantityMilli line.item.quantityMilli yieldQty

theorem lineApplies_eq {line : RecipeItem} (hscope : line.optionId ≠ some "") :
    lineApplies (oneUnit menuItemId chosen)
        ⟨line.ingredientId, line.quantityMilli, line.optionId, line.removableRefId⟩ =
      (scopedTo (itemResponse recipe.yieldQty ingredients line)).all chosen.contains := by
  have hscoped : scopedTo (itemResponse recipe.yieldQty ingredients line) = line.optionId := by
    change line.optionId.filter (· ≠ "") = line.optionId
    cases ho : line.optionId with
    | none => rfl
    | some o =>
        have hne : o ≠ "" := fun h => hscope (ho.trans (congrArg some h))
        simp [hne]
  simp [lineApplies, oneUnit, hscoped]

-- What a sale takes of each ingredient is what the shown lines that apply add up to.
theorem total_applying {p : Uuid → Bool}
    (hscope : ∀ line ∈ (buildResponse ingredients recipe).items, line.item.optionId ≠ some "") :
    ((((recipeSpec recipe).lines.filter (lineApplies (oneUnit menuItemId chosen))).filter fun line =>
        p line.ingredientId).map fun line => scale line.quantityMilli 1 recipe.yieldQty).sum =
      (((applying chosen (buildResponse ingredients recipe).items).filter fun line =>
        p line.item.ingredientId).map (portion recipe.yieldQty)).sum := by
  simp only [buildResponse, recipeSpec, applying, List.filter_map, List.map_map,
    List.forall_mem_map] at hscope ⊢
  have hfilter : (recipe.items.mergeSort fun a b => a.sortOrder ≤ b.sortOrder).filter
        (lineApplies (oneUnit menuItemId chosen) ∘ fun line =>
          ⟨line.ingredientId, line.quantityMilli, line.optionId, line.removableRefId⟩) =
      (recipe.items.mergeSort fun a b => a.sortOrder ≤ b.sortOrder).filter
        ((fun line => (scopedTo line).all chosen.contains) ∘
          itemResponse recipe.yieldQty ingredients) :=
    List.filter_congr fun line hline => lineApplies_eq (hscope line hline)
  rw [hfilter]
  congr 1
  refine List.map_congr_left fun line _ => ?_
  simp [scale, portion, perPortionQuantityMilli, itemResponse]

section Taken

variable {cost : Uuid → Int} {yieldQty : Nat} {taken : List IngredientConsumption}

-- The lines of one ingredient, valued one by one and together.
theorem ingredient_close {id : Uuid} (hcost : 0 ≤ cost id)
    (hquantity : ∀ line ∈ lines, 0 ≤ line.item.quantityMilli)
    (hprice : ∀ line ∈ lines, line.costCents =
      valueCents (portion yieldQty line) (cost line.item.ingredientId)) :
    |((lines.filter fun line => line.item.ingredientId = id).map (·.costCents)).sum -
        valueCents ((lines.filter fun line => line.item.ingredientId = id).map
          (portion yieldQty)).sum (cost id)| ≤
      ((lines.filter fun line => line.item.ingredientId = id).length : Int) / 2 := by
  have hclose := @rounded_sum_close
    ((lines.filter fun line => line.item.ingredientId = id).map fun line =>
      portion yieldQty line * cost id) 1000000000 (by decide) ?_
  · rw [List.map_map, List.length_map, List.sum_map_mul_right] at hclose
    have hcosts : (lines.filter fun line => line.item.ingredientId = id).map (·.costCents) =
        (lines.filter fun line => line.item.ingredientId = id).map
          ((fun n => Pricing.roundHalfUp n 1000000000) ∘ fun line =>
            portion yieldQty line * cost id) := by
      refine List.map_congr_left fun line hline => ?_
      obtain ⟨hmem, hid⟩ := List.mem_filter.mp hline
      rw [hprice line hmem, of_decide_eq_true hid]
      rfl
    rw [hcosts]
    exact hclose
  · intro n hn
    obtain ⟨line, hline, rfl⟩ := List.mem_map.mp hn
    exact mul_nonneg (roundHalfUp_nonneg (hquantity line (List.mem_of_mem_filter hline))) hcost

theorem taken_total (htidy : Tidy taken) {c : IngredientConsumption} (hc : c ∈ taken) :
    GroupBy.total (fun id => id = c.ingredientId) (pairs taken) = c.quantityMilli := by
  have hkeys : ((pairs taken).map (·.1)).Nodup := by
    rw [Resolution.keys_pairs]
    exact htidy.once
  have hne : ∀ entry ∈ pairs taken, entry.2 ≠ 0 := by
    intro entry hentry
    obtain ⟨c', hc', rfl⟩ := List.mem_map.mp hentry
    exact (htidy.positive c' hc').ne'
  rw [← GroupBy.quantity_eq_total hkeys,
    (GroupBy.mem_iff_quantity hkeys hne (htidy.positive c hc).ne').mp (List.mem_map_of_mem hc)]

theorem lines_close (cost : Uuid → Int) (yieldQty : Nat) (hcost : ∀ id, 0 ≤ cost id)
    (hquantity : ∀ line ∈ lines, 0 ≤ line.item.quantityMilli)
    (hprice : ∀ line ∈ lines, line.costCents =
      valueCents (portion yieldQty line) (cost line.item.ingredientId))
    (htidy : Tidy taken)
    (htotal : ∀ p, GroupBy.total p (pairs taken) =
      ((lines.filter fun line => p line.item.ingredientId).map (portion yieldQty)).sum) :
    |(lines.map (·.costCents)).sum -
        (taken.map fun c => valueCents c.quantityMilli (cost c.ingredientId)).sum| ≤
      halves lines := by
  set ids := (lines.map fun line => line.item.ingredientId).toFinset with hids
  have hkeys : ((pairs taken).map (·.1)).Nodup := by
    rw [Resolution.keys_pairs]
    exact htidy.once
  have hmem : ∀ entry ∈ pairs taken, entry.1 ∈ ids := by
    intro entry hentry
    obtain ⟨c, hc, rfl⟩ := List.mem_map.mp hentry
    by_contra hnot
    have hnone : lines.filter (fun line => line.item.ingredientId = c.ingredientId) = [] := by
      refine List.filter_eq_nil_iff.mpr fun line hline => ?_
      have hne : line.item.ingredientId ≠ c.ingredientId := fun h =>
        hnot (List.mem_toFinset.mpr (List.mem_map.mpr ⟨line, hline, h⟩))
      simpa using hne
    have hzero := taken_total htidy hc
    rw [htotal, hnone] at hzero
    exact (htidy.positive c hc).ne hzero
  have hlines : (lines.map (·.costCents)).sum = ∑ id ∈ ids,
      ((lines.filter fun line => line.item.ingredientId = id).map (·.costCents)).sum :=
    (GroupBy.sum_by_key (fun line : RecipeItemResponse => line.item.ingredientId) (·.costCents)
      fun line hline =>
        List.mem_toFinset.mpr (List.mem_map.mpr ⟨line, hline, rfl⟩)).symm
  have htaken : (taken.map fun c => valueCents c.quantityMilli (cost c.ingredientId)).sum =
      ∑ id ∈ ids, valueCents ((lines.filter fun line => line.item.ingredientId = id).map
        (portion yieldQty)).sum (cost id) := by
    have hsum := GroupBy.sum_entries (fun id n => valueCents n (cost id))
      (fun id => by simp [valueCents, Pricing.roundHalfUp]) hkeys hmem
    rw [pairs, List.map_map] at hsum
    refine hsum.symm.trans (Finset.sum_congr rfl fun id _ => ?_)
    change valueCents (GroupBy.total (fun j => j = id) (pairs taken)) (cost id) = _
    rw [htotal]
  rw [hlines, htaken, ← Finset.sum_sub_distrib]
  exact (Finset.abs_sum_le_sum_abs _ _).trans
    (Finset.sum_le_sum fun id _ => ingredient_close (hcost id) hquantity hprice)

end Taken

def loaded (businessId : Uuid) (ids : List Uuid) (db : Database) : List Ingredient :=
  db.ingredients.filter fun i => i.businessId = businessId ∧ i.id ∈ ids

theorem find_only {rows : List Ingredient} {i : Ingredient} {p : Ingredient → Bool} (hmem : i ∈ rows)
    (hp : p i = true) (honly : ∀ j ∈ rows, p j = true → j = i) : rows.find? p = some i := by
  cases hfind : rows.find? p with
  | none => exact absurd hp (by simpa using List.find?_eq_none.mp hfind i hmem)
  | some j => rw [honly j (List.mem_of_find?_eq_some hfind) (List.find?_some hfind)]

theorem loaded_cost {ids : List Uuid} {id : Uuid} (hid : id ∈ ids) :
    ((loaded businessId ids db).find? fun i => i.id = id).elim 0 (·.costPerCanonicalMicroCents) =
      ingredientCost businessId db.ingredients id := by
  unfold ingredientCost loaded
  rw [List.find?_filter]
  congr 1
  cases hrow : db.ingredients.lookup id with
  | none =>
      refine List.find?_eq_none.mpr fun i hi => ?_
      have hne : i.id ≠ id := Table.lookup_eq_none.mp hrow i hi
      simp [hne]
  | some i =>
      have hkey : i.id = id := Table.lookup_key hrow
      have honly : ∀ j ∈ db.ingredients, j.id = id → j = i := by
        intro j hj hjd
        have hj' := Table.lookup_of_mem (db.valid .ingredientsPkey) hj
        rw [show key j = id from hjd, hrow] at hj'
        exact (Option.some.inj hj').symm
      by_cases hbusiness : i.businessId = businessId
      · have hfilter : (some i).filter (fun i => i.businessId = businessId) = some i := by
          simp [hbusiness]
        rw [hfilter]
        refine find_only (Table.lookup_mem hrow) (by simp [hbusiness, hkey, hid]) fun j hj hfound => ?_
        simp only [decide_eq_true_eq] at hfound
        exact honly j hj hfound.2
      · have hfilter : (some i).filter (fun i => i.businessId = businessId) = none := by
          simp [hbusiness]
        rw [hfilter]
        refine List.find?_eq_none.mpr fun j hj => ?_
        simp only [decide_eq_true_eq, not_and]
        rintro ⟨hown, -⟩ hjd
        exact hbusiness (honly j hj hjd ▸ hown)

-- No option costs more than the dearest of them.
theorem le_dearest (hprices : ∀ line ∈ items, 0 ≤ line.costCents) {k : Option String} :
    ((items.filter fun line => scopedTo line = k).map (·.costCents)).sum ≤
      (((GroupBy.sums scopedTo (·.costCents) items).map (·.2)).max?).getD 0 := by
  have hquantity := GroupBy.quantity_sums (k := k) scopedTo (·.costCents) items
  generalize ((items.filter fun line => scopedTo line = k).map (·.costCents)).sum = n at *
  have hnonneg := GroupBy.nonneg_sums scopedTo (·.costCents) hprices
  generalize GroupBy.sums scopedTo (·.costCents) items = sums at *
  cases hmax : (sums.map (·.2)).max? with
  | none =>
      have hempty : sums = [] := List.map_eq_nil_iff.mp (List.max?_eq_none_iff.mp hmax)
      subst hempty
      exact hquantity.symm.le
  | some m =>
      obtain ⟨hm, hle⟩ := List.max?_eq_some_iff.mp hmax
      obtain ⟨entry, hentry, rfl⟩ := List.mem_map.mp hm
      rcases eq_or_ne n 0 with rfl | hn
      · exact hnonneg entry hentry
      · exact hle n (List.mem_map.mpr ⟨(k, n), GroupBy.mem_of_quantity hquantity hn, rfl⟩)

theorem sum_applying {lines : List RecipeItemResponse} :
    ((applying chosen lines).map (·.costCents)).sum =
      ((lines.filter fun line => (scopedTo line).isNone).map (·.costCents)).sum +
        ((lines.filter fun line => (scopedTo line).any chosen.contains).map (·.costCents)).sum := by
  unfold applying
  induction lines with
  | nil => rfl
  | cons line lines ih =>
      cases hscope : scopedTo line with
      | none => simp [hscope, ih, add_assoc]
      | some o =>
          by_cases ho : o ∈ chosen
          · simp [hscope, ho, ih, add_left_comm]
          · simp [hscope, ho, ih]

theorem chosen_le_dearest (hprices : ∀ line ∈ items, 0 ≤ line.costCents)
    (hone : OneChoice chosen items) :
    ((items.filter fun line => (scopedTo line).any chosen.contains).map (·.costCents)).sum ≤
      (((GroupBy.sums scopedTo (·.costCents)
        (items.filter fun line => (scopedTo line).isSome)).map (·.2)).max?).getD 0 := by
  have hscoped : ∀ line ∈ items.filter fun line => (scopedTo line).isSome, 0 ≤ line.costCents :=
    fun line hline => hprices line (List.mem_of_mem_filter hline)
  -- The lines chosen are those of one option, or of none.
  have hkey : ∃ k, (items.filter fun line => (scopedTo line).any chosen.contains) =
      (items.filter fun line => (scopedTo line).isSome).filter fun line => scopedTo line = k := by
    by_cases hnone : (items.filter fun line => (scopedTo line).any chosen.contains) = []
    · refine ⟨none, hnone.trans (Eq.symm ?_)⟩
      rw [List.filter_filter]
      refine List.filter_eq_nil_iff.mpr fun line _ => ?_
      cases scopedTo line <;> simp
    · obtain ⟨line, hline⟩ := List.exists_mem_of_ne_nil _ hnone
      obtain ⟨hmem, hchosen⟩ := List.mem_filter.mp hline
      obtain ⟨o, ho, hin⟩ := (Option.any_eq_true _ _).mp hchosen
      have hin' : o ∈ chosen := List.contains_iff_mem.mp hin
      refine ⟨some o, ?_⟩
      rw [List.filter_filter]
      refine List.filter_congr fun line' hline' => ?_
      cases hscope : scopedTo line' with
      | none => simp
      | some o' =>
          by_cases heq : o' = o
          · simp [heq, hin']
          · have hout : o' ∉ chosen := fun ho' =>
              heq (hone line' hline' line hmem o' hscope o ho ho' hin')
            simp [heq, hout]
  obtain ⟨k, hk⟩ := hkey
  rw [hk]
  exact le_dearest hscoped

end Agreement

section Displayed

variable {user : AuthUser} {db : Database} {response : RecipeResponse} {recipe : Recipe}
  {businessId menuItemId orderId : Uuid} {chosen : List String} {staff : Option Uuid} {at' : Instant}
  {session : Session}

theorem loadIngredients_run {ids : List Uuid} :
    (loadIngredients businessId ids).run db = (.ok (loaded businessId ids db), db) := by
  unfold loadIngredients
  split
  next hempty =>
    subst hempty
    simp [loaded]
  next => rfl

-- A response shows an active recipe of the business at the costs of all its ingredients.
structure Shows (businessId : Uuid) (db : Database) (recipe : Recipe) (response : RecipeResponse) :
    Prop where
  mem : recipe ∈ db.recipes
  own : recipe.businessId = businessId
  active : recipe.isActive
  built : ∃ ids, (∀ line ∈ recipe.items, line.ingredientId ∈ ids) ∧
    response = buildResponse (loaded businessId ids db) recipe

theorem loadIngredients_yields {ids : List Uuid} :
    (loadIngredients businessId ids).Yields db fun ingredients =>
      ingredients = loaded businessId ids db := by
  unfold Yields Ensures
  rw [loadIngredients_run]
  exact ⟨rfl, fun _ h => (Except.ok.inj h).symm⟩

theorem getRecipeForMenuItem_shows :
    (getRecipeForMenuItem user menuItemId).Yields db fun response =>
      ∃ recipe, Shows user.businessId db recipe response := by
  refine yields_seq readOnly_requireStaffOrAbove.yields fun _ _ => ?_
  refine yields_seq RoutesInventory.readOnly_requireInventoryEnabled.yields fun _ _ => ?_
  refine yields_seq scalar_rows fun row hrow => ?_
  refine yields_seq (yields_orFail fun recipe hrecipe => hrecipe) fun recipe hrecipe => ?_
  have hmem : recipe ∈ activeRecipes user.businessId (.menuItem menuItemId) db.toTables := by
    simp [hrow, hrecipe]
  obtain ⟨hstored, hkept⟩ := List.mem_filter.mp hmem
  obtain ⟨hown, hactive, -⟩ := of_decide_eq_true hkept
  refine yields_seq loadIngredients_yields fun ingredients hloaded => yields_done ?_
  exact ⟨recipe, hstored, hown, hactive, _, fun line hline => List.mem_map.mpr ⟨line, hline, rfl⟩,
    by rw [hloaded]⟩

theorem listRecipes_shows :
    (listRecipes user).Yields db fun responses => ∀ response ∈ responses,
      ∃ recipe, Shows user.businessId db recipe response := by
  refine yields_seq readOnly_requireStaffOrAbove.yields fun _ _ => ?_
  refine yields_seq RoutesInventory.readOnly_requireInventoryEnabled.yields fun _ _ => ?_
  refine yields_seq (yields_read rfl) fun recipes hrecipes => ?_
  refine yields_seq loadIngredients_yields fun ingredients hloaded => yields_done ?_
  rintro response hresponse
  obtain ⟨recipe, hmem, rfl⟩ := List.mem_map.mp hresponse
  have hstored := hmem
  rw [← hrecipes] at hstored
  obtain ⟨hrecipe, hkept⟩ := List.mem_filter.mp hstored
  obtain ⟨hown, hactive⟩ := of_decide_eq_true hkept
  exact ⟨recipe, hrecipe, hown, hactive, _, fun line hline =>
    List.mem_flatMap.mpr ⟨recipe, hmem, List.mem_map.mpr ⟨line, hline, rfl⟩⟩, by rw [hloaded]⟩

theorem displayed_shows (h : Displayed user db response) :
    ∃ recipe, Shows user.businessId db recipe response := by
  rcases h with ⟨menuItemId, hrun⟩ | ⟨responses, hrun, hmem⟩
  · exact (getRecipeForMenuItem_shows.elim hrun).2 response rfl
  · exact (listRecipes_shows.elim hrun).2 responses rfl response hmem

theorem lookup_only {entries : List (Uuid × RecipeSpec)} {spec : RecipeSpec}
    (hmem : (menuItemId, spec) ∈ entries)
    (honly : ∀ entry ∈ entries, entry.1 = menuItemId → entry.2 = spec) :
    entries.lookup menuItemId = some spec := by
  cases hlookup : entries.lookup menuItemId with
  | none =>
      have hnone := List.lookup_eq_none_iff.mp hlookup _ hmem
      simp at hnone
  | some spec' =>
      obtain ⟨before, after, rfl, -⟩ := List.lookup_eq_some_iff.mp hlookup
      rw [← honly (menuItemId, spec') (by simp) rfl]

-- The recipe shown is the one that a sale of the item resolves against.
theorem sold_recipe (hindex : UqRecipesActiveMenuItem db.toTables)
    (hshows : Shows businessId db recipe response) (hitem : recipe.menuItemId = some menuItemId) :
    (loadRecipeSpecs businessId [menuItemId] [] db).item menuItemId = some (recipeSpec recipe) := by
  refine lookup_only (List.mem_reverse.mpr (List.mem_filterMap.mpr
    ⟨recipe, List.mem_filter.mpr ⟨hshows.mem, ?_⟩, by simp [hitem]⟩)) ?_
  · simp [hshows.own, hshows.active, hitem]
  · intro entry hentry hkey
    obtain ⟨r, hr, hmap⟩ := List.mem_filterMap.mp (List.mem_reverse.mp hentry)
    obtain ⟨hstored, hkept⟩ := List.mem_filter.mp hr
    obtain ⟨-, hactive, -⟩ := of_decide_eq_true hkept
    obtain ⟨id, hid, rfl⟩ := Option.map_eq_some_iff.mp hmap
    obtain rfl : id = menuItemId := hkey
    have hsame : r = recipe := Table.Unique.eq_of_mem hindex hstored hshows.mem
      (b := id) (by simp [hactive, hid]) (by simp [hshows.active, hitem])
    rw [hsame]

theorem halves_eq_zero {lines : List RecipeItemResponse}
    (h : (lines.map fun line => line.item.ingredientId).Nodup) : halves lines = 0 := by
  refine Finset.sum_eq_zero fun id _ => ?_
  have hcount := List.nodup_iff_count_le_one.mp h id
  rw [List.count_eq_countP, List.countP_map, List.countP_eq_length_filter] at hcount
  have hlength : (lines.filter fun line => line.item.ingredientId = id).length ≤ 1 := by
    refine le_trans (le_of_eq ?_) hcount
    congr 2
  change ((lines.filter fun line => line.item.ingredientId = id).length : Int) / 2 = 0
  omega

theorem shown_price (hshows : Shows businessId db recipe response) : ∀ line ∈ response.items,
    line.costCents = valueCents (portion recipe.yieldQty line)
      (ingredientCost businessId db.ingredients line.item.ingredientId) := by
  obtain ⟨ids, hids, rfl⟩ := hshows.built
  intro line hline
  obtain ⟨stored, hstored, rfl⟩ := List.mem_map.mp hline
  change valueCents _ _ = valueCents _ _
  rw [loaded_cost (hids stored (List.mem_mergeSort.mp hstored))]
  rfl

theorem unit_close (hindex : UqRecipesActiveMenuItem db.toTables)
    (hshows : Shows businessId db recipe response) (hitem : recipe.menuItemId = some menuItemId)
    (hpriced : Priced response db) :
    |((applying chosen response.items).map (·.costCents)).sum -
        consumedCents (saleMovements businessId orderId staff at'
          (resolveOrder [oneUnit menuItemId chosen]
            (loadRecipeSpecs businessId [menuItemId] [] db).item
            (loadRecipeSpecs businessId [menuItemId] [] db).addOn).lines db.ingredients)| ≤
      halves (applying chosen response.items) := by
  have hspec := sold_recipe hindex hshows hitem
  have hprice := shown_price hshows
  have hscope := hpriced.scope
  have hquantity := hpriced.quantity
  obtain ⟨ids, -, hbuilt⟩ := hshows.built
  have hnonneg : ∀ line ∈ (recipeSpec recipe).lines, 0 ≤ line.quantityMilli := by
    intro line hline
    obtain ⟨stored, hstored, rfl⟩ := List.mem_map.mp hline
    rw [hbuilt] at hquantity
    exact hquantity _ (List.mem_map_of_mem hstored)
  obtain ⟨htidy, htotal⟩ := resolved_unit chosen
    (loadRecipeSpecs businessId [menuItemId] [] db).addOn hspec hnonneg
  rw [consumedCents_sale htidy hpriced.cost]
  refine lines_close (ingredientCost businessId db.ingredients) recipe.yieldQty
    (fun id => ingredientCost_nonneg hpriced.cost)
    (fun line hline => hquantity line (List.mem_of_mem_filter hline))
    (fun line hline => hprice line (List.mem_of_mem_filter hline)) htidy fun p => ?_
  rw [htotal p, hbuilt]
  exact total_applying (hbuilt ▸ hscope)

theorem agrees_of_close {movements : List StockMovement}
    (hshows : Shows businessId db recipe response) (hpriced : Priced response db)
    (hclose : |((applying chosen response.items).map (·.costCents)).sum - consumedCents movements| ≤
      halves (applying chosen response.items)) : Agrees response chosen movements := by
  have hprices : ∀ line ∈ response.items, 0 ≤ line.costCents := by
    intro line hline
    rw [shown_price hshows line hline]
    exact roundHalfUp_nonneg (mul_nonneg (roundHalfUp_nonneg (hpriced.quantity line hline))
      (ingredientCost_nonneg hpriced.cost))
  obtain ⟨ids, -, hbuilt⟩ := hshows.built
  have hbase : response.baseFoodCostCents =
      ((response.items.filter fun line => (scopedTo line).isNone).map (·.costCents)).sum := by
    rw [hbuilt]
    rfl
  have hmaximum : response.maxFoodCostCents = response.baseFoodCostCents +
      (((GroupBy.sums scopedTo (·.costCents)
        (response.items.filter fun line => (scopedTo line).isSome)).map (·.2)).max?).getD 0 := by
    rw [hbuilt]
    rfl
  refine ⟨hclose, ?_, fun hone => ?_, halves_eq_zero⟩
  · rintro rfl
    have hnone : (response.items.filter fun line => (scopedTo line).any ([] : List String).contains) =
        [] := List.filter_eq_nil_iff.mpr fun line _ => by cases scopedTo line <;> simp
    rw [sum_applying, hnone, ← hbase] at hclose
    simpa using hclose
  · have hdearest := chosen_le_dearest hprices hone
    rw [sum_applying, ← hbase] at hclose
    have hbounds := abs_le.mp hclose
    rw [hmaximum]
    linarith [hbounds.1]

theorem costing_agrees (hshown : Displayed user db response)
    (hitem : response.menuItemId = some menuItemId) (hindex : UqRecipesActiveMenuItem db.toTables)
    (hpriced : Priced response db) (session : Session) (orderId : Uuid) (staff : Option Uuid)
    (at' : Instant) (chosen : List String) :
    ∃ session' movements,
      (postSaleConsumption session user.businessId orderId staff [oneUnit menuItemId chosen] at').run
        db = (.ok session', db) ∧
      (∀ tables, session'.pending tables = appendMovements movements (session.pending tables)) ∧
      Agrees response chosen movements := by
  obtain ⟨recipe, hshows⟩ := displayed_shows hshown
  have hitem' : recipe.menuItemId = some menuItemId := by
    obtain ⟨ids, -, hbuilt⟩ := hshows.built
    rw [hbuilt] at hitem
    exact hitem
  obtain ⟨session', hrun, hpending⟩ := Resolution.postSaleConsumption_run session user.businessId
    orderId staff [oneUnit menuItemId chosen] at' db
  exact ⟨session', _, hrun, hpending,
    agrees_of_close hshows hpriced (unit_close hindex hshows hitem' hpriced)⟩

end Displayed

section Fixtures

-- Two lines of half a cent of cheese, and an option in each of two groups.
def pizzaRecipe : Recipe where
  id := 1
  businessId := 1
  menuItemId := some 7
  menuAddOnId := none
  isActive := true
  yieldQty := 1
  yieldPositive := Nat.one_pos
  items := [⟨1, 100, none, none, 0, none⟩, ⟨1, 100, none, none, 1, none⟩,
    ⟨2, 3000, some "large", none, 2, some "size"⟩, ⟨3, 2000, some "stuffed", none, 3, some "crust"⟩]

def pizza : MenuItem where
  id := 7
  businessId := 1
  name := "Pizza"
  priceCents := 9000
  optionGroups :=
    [⟨"size", "Size", true, true, [⟨"large", "Large", 0, true⟩], 0, 1⟩,
      ⟨"crust", "Crust", false, true, [⟨"stuffed", "Stuffed", 0, true⟩], 0, 1⟩]
  removableIngredients := []
  addOnIds := []
  isActive := true
  isDeleted := false
  requiresPreparation := true

def ingredient (id : Uuid) (name : String) (cost : Int) : Ingredient where
  id := id
  businessId := 1
  name := name
  canonicalUnit := .gram
  costPerCanonicalMicroCents := cost

def pizzeria : Database where
  businesses := [{ id := 1, inventoryEnabled := true }]
  menuItems := [pizza]
  recipes := [pizzaRecipe]
  ingredients := [ingredient 1 "Mozzarella" 5000000, ingredient 2 "Dough" 1000000,
    ingredient 3 "Crust" 1000000]
  now := 0
  valid := Tables.violation_eq_none.mp (by decide +kernel)

def cook : AuthUser := ⟨9, 1, .staff⟩

def pizzaCosting : RecipeResponse := buildResponse pizzeria.ingredients pizzaRecipe

theorem pizza_displayed : Displayed cook pizzeria pizzaCosting :=
  .inl ⟨7, rfl⟩

theorem pizza_items : pizzaCosting.items =
    pizzaRecipe.items.map (itemResponse 1 pizzeria.ingredients) := by
  have hsorted : (pizzaRecipe.items.mergeSort fun a b => a.sortOrder ≤ b.sortOrder) =
      pizzaRecipe.items := List.mergeSort_of_pairwise (by decide)
  change (pizzaRecipe.items.mergeSort fun a b => a.sortOrder ≤ b.sortOrder).map _ = _
  rw [hsorted]
  rfl

theorem pizza_priced : Priced pizzaCosting pizzeria where
  quantity := by
    rw [pizza_items]
    decide
  scope := by
    rw [pizza_items]
    decide
  cost := by decide

theorem pizza_costing : ∃ session' movements,
    (postSaleConsumption {} 1 5 none [oneUnit 7 []] 0).run pizzeria = (.ok session', pizzeria) ∧
    (∀ tables, session'.pending tables = appendMovements movements tables) ∧
    Agrees pizzaCosting [] movements :=
  costing_agrees pizza_displayed rfl (by decide) pizza_priced {} 5 none 0 []

def pizzaSpec : RecipeSpec :=
  ⟨[⟨1, 100, none, none⟩, ⟨1, 100, none, none⟩, ⟨2, 3000, some "large", none⟩,
    ⟨3, 2000, some "stuffed", none⟩], 1, Nat.one_pos⟩

theorem pizza_recipes : loadRecipeSpecs 1 [7] [] pizzeria = ⟨[(7, pizzaSpec)], []⟩ := by
  have hsorted : (pizzaRecipe.items.mergeSort fun a b => a.sortOrder ≤ b.sortOrder) =
      pizzaRecipe.items := List.mergeSort_of_pairwise (by decide)
  have hspec : recipeSpec pizzaRecipe = pizzaSpec := by
    unfold recipeSpec
    simp only [hsorted]
    rfl
  rw [← hspec]
  rfl

def pizzaSold (chosen : List String) : List StockMovement :=
  saleMovements 1 5 none 0 (resolveOrder [oneUnit 7 chosen] (RecipeSpecs.mk [(7, pizzaSpec)] []).item
    (RecipeSpecs.mk [(7, pizzaSpec)] []).addOn).lines pizzeria.ingredients

theorem pizza_sold (chosen : List String) : ∃ session',
    (postSaleConsumption {} 1 5 none [oneUnit 7 chosen] 0).run pizzeria = (.ok session', pizzeria) ∧
    ∀ tables, session'.pending tables = appendMovements (pizzaSold chosen) tables := by
  obtain ⟨session', hrun, hpending⟩ :=
    Resolution.postSaleConsumption_run {} 1 5 none [oneUnit 7 chosen] 0 pizzeria
  have hrecipes : Resolution.soldRecipes 1 [oneUnit 7 chosen] pizzeria = ⟨[(7, pizzaSpec)], []⟩ :=
    pizza_recipes
  rw [hrecipes] at hpending
  exact ⟨session', hrun, hpending⟩

theorem pizza_costs_otherwise :
    (Pos.resolveSelectedOptions pizza [("size", "large"), ("crust", "stuffed")]).isOk ∧
    Displayed cook pizzeria pizzaCosting ∧
    (∃ session' movements,
      (postSaleConsumption {} 1 5 none [oneUnit 7 []] 0).run pizzeria = (.ok session', pizzeria) ∧
      (∀ tables, session'.pending tables = appendMovements movements tables) ∧
      pizzaCosting.baseFoodCostCents = 2 ∧ consumedCents movements = 1) ∧
    ∃ session' movements,
      (postSaleConsumption {} 1 5 none [oneUnit 7 ["large", "stuffed"]] 0).run pizzeria =
        (.ok session', pizzeria) ∧
      (∀ tables, session'.pending tables = appendMovements movements tables) ∧
      pizzaCosting.maxFoodCostCents = 5 ∧ consumedCents movements = 6 := by
  have hitems := pizza_items
  have hbase : pizzaCosting.baseFoodCostCents = 2 := by
    change (((pizzaCosting.items.filter fun line => (scopedTo line).isNone).map (·.costCents)).sum) = 2
    rw [hitems]
    decide
  have hmaximum : pizzaCosting.maxFoodCostCents = 5 := by
    change pizzaCosting.baseFoodCostCents + (((GroupBy.sums scopedTo (·.costCents)
      (pizzaCosting.items.filter fun line => (scopedTo line).isSome)).map (·.2)).max?).getD 0 = 5
    rw [hbase, hitems]
    decide
  obtain ⟨plain, hplain, hpending⟩ := pizza_sold []
  obtain ⟨both, hboth, hpending'⟩ := pizza_sold ["large", "stuffed"]
  exact ⟨by decide, pizza_displayed, ⟨plain, _, hplain, hpending, hbase, by decide⟩,
    both, _, hboth, hpending', hmaximum, by decide⟩

end Fixtures

end NextgenBackend.RecipeCosting
