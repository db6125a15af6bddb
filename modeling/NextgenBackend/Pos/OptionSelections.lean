import NextgenBackend.Library.Dict
import NextgenBackend.Library.Fallible
import NextgenBackend.Pos.Pricing

namespace NextgenBackend.Pos

open Fallible

section Selections

variable (menuItem : MenuItem) (selected : Dict String String)

-- A blank option id chooses nothing.
abbrev chosen (group : OptionGroup) : Option String :=
  (selected.lookup group.id).filter (· ≠ "")

def selections (group : OptionGroup) : Nat :=
  if (chosen selected group).isSome then 1 else 0

def enabledGroups : List OptionGroup :=
  menuItem.optionGroups.filter (·.isEnabled)

def NamesGroups : Prop :=
  ∀ entry ∈ selected.entries, ∃ group ∈ enabledGroups menuItem, group.id = entry.1

def NamesOptions : Prop :=
  ∀ group ∈ enabledGroups menuItem, ∀ optionId ∈ chosen selected group,
    ∃ o ∈ group.options, o.isEnabled ∧ o.id = optionId

def HasRequired : Prop :=
  ∀ group ∈ enabledGroups menuItem, group.required → (chosen selected group).isSome

def KeepsLimits : Prop :=
  ∀ group ∈ enabledGroups menuItem, group.minSelections ≤ selections selected group ∧
    selections selected group ≤ group.maxSelections

structure IsValid : Prop where
  groups : NamesGroups menuItem selected
  options : NamesOptions menuItem selected
  required : HasRequired menuItem selected
  limits : KeepsLimits menuItem selected

variable {menuItem selected}

theorem resolveGroup_succeeds_iff (group : OptionGroup) :
    Succeeds (resolveGroup menuItem selected.entries group) ↔ (group.isEnabled →
      (group.required → (chosen selected group).isSome) ∧
        ∀ optionId ∈ chosen selected group, ∃ o ∈ group.options, o.isEnabled ∧ o.id = optionId) := by
  have hchosen : (selected.entries.lookup group.id).filter (· ≠ "") = chosen selected group := rfl
  unfold resolveGroup
  dsimp only
  rw [hchosen]
  cases chosen selected group with
  | none =>
      by_cases h : group.isEnabled ∧ group.required
      · simp [h]
      · rw [if_neg h]
        refine iff_of_true (gives_ok.mpr trivial) fun henabled => ⟨fun hrequired => ?_, by simp⟩
        exact absurd ⟨henabled, hrequired⟩ h
  | some optionId =>
      by_cases henabled : group.isEnabled
      · simp only [henabled, not_true_eq_false, if_false]
        cases hfind : (group.options.filter (·.isEnabled)).find? (·.id = optionId) with
        | none =>
            simp only [List.find?_eq_none, List.mem_filter, decide_eq_true_eq, and_imp] at hfind
            simpa using hfind
        | some o =>
            have hmem := List.mem_filter.mp (List.mem_of_find?_eq_some hfind)
            have hid := List.find?_some hfind
            simp only [decide_eq_true_eq] at hid
            simpa using ⟨o, hmem.1, hmem.2, hid⟩
      · simp [henabled]

theorem accepts_iff : Succeeds (resolveSelectedOptions menuItem selected.entries) ↔
    NamesOptions menuItem selected ∧ HasRequired menuItem selected := by
  simp only [resolveSelectedOptions, gives_bind, gives_pure, gives_mapM, and_true,
    resolveGroup_succeeds_iff]
  simp only [NamesOptions, HasRequired, enabledGroups, List.mem_filter, and_imp]
  constructor
  · exact fun h => ⟨fun group hgroup henabled => (h group hgroup henabled).2,
      fun group hgroup henabled => (h group hgroup henabled).1⟩
  · rintro ⟨hoptions, hrequired⟩ group hgroup henabled
    exact ⟨hrequired group hgroup henabled, hoptions group hgroup henabled⟩

theorem selections_accepted_iff (menuItem : MenuItem) (selected : Dict String String) :
    (Succeeds (resolveSelectedOptions menuItem selected.entries) ↔ IsValid menuItem selected) ↔
      (NamesOptions menuItem selected → HasRequired menuItem selected →
        NamesGroups menuItem selected ∧ KeepsLimits menuItem selected) := by
  rw [accepts_iff]
  constructor
  · intro h hoptions hrequired
    have hvalid := h.mp ⟨hoptions, hrequired⟩
    exact ⟨hvalid.groups, hvalid.limits⟩
  · intro h
    constructor
    · rintro ⟨hoptions, hrequired⟩
      obtain ⟨hgroups, hlimits⟩ := h hoptions hrequired
      exact ⟨hgroups, hoptions, hrequired, hlimits⟩
    · exact fun hvalid => ⟨hvalid.options, hvalid.required⟩

def icedTea : MenuItem where
  id := 3
  businessId := 1
  name := "Iced tea"
  priceCents := 2500
  optionGroups :=
    [{ id := "size", name := "Size", required := true, isEnabled := true,
       options := [⟨"regular", "Regular", 0, true⟩] }]
  removableIngredients := []
  addOnIds := []
  isActive := true
  isDeleted := false
  requiresPreparation := true

-- The tea has no milk, and the till's choice of one is dropped without a word.
theorem unknown_group_dropped :
    let selected : Dict String String :=
      ⟨[("size", "regular"), ("milk", "oat")], by decide⟩
    resolveSelectedOptions icedTea selected.entries =
        .ok [⟨"size", "Size", "regular", "Regular", 0⟩] ∧
      ¬ IsValid icedTea selected := by
  refine ⟨rfl, fun h => ?_⟩
  obtain ⟨group, hgroup, hid⟩ := h.groups ("milk", "oat") (by simp)
  simp only [enabledGroups, icedTea, List.filter_cons, List.filter_nil, if_true,
    List.mem_singleton] at hgroup
  subst hgroup
  exact absurd hid (by decide)

end Selections

section AddOnQuantities

def lineTotal (addOnId : Uuid) (addOns : List SelectedAddOn) : Int :=
  ((addOns.filter (·.addOnId = addOnId)).map (·.quantity)).sum

variable {addOns : List MenuAddOn} {item : POSItemInput} {resolved : ResolvedPOSItem}
  {selection : POSAddOnSelection} {selected : SelectedAddOn}

-- A selection is raised to the least quantity and refused above the greatest.
theorem resolveAddOn_ok (h : resolveAddOn addOns selection = .ok selected) :
    ∃ addOn, addOns.find? (·.id = selection.addOnId) = some addOn ∧
      addOn.id = selection.addOnId ∧
        selected = ⟨addOn.id, addOn.name, addOn.priceCents,
          max selection.quantity addOn.minQty⟩ ∧
            max selection.quantity addOn.minQty ≤ addOn.maxQty := by
  unfold resolveAddOn at h
  split at h
  · cases h
  next addOn hfind =>
    dsimp only at h
    split at h
    · cases h
    next hle =>
      have hid := List.find?_some hfind
      simp only [decide_eq_true_eq] at hid
      exact ⟨addOn, hfind, hid, (Except.ok.inj h).symm, not_lt.mp hle⟩

theorem resolveItem_ok {menuItems : List MenuItem}
    (h : resolveItem menuItems addOns item = .ok resolved) :
    ∃ menuItem ∈ menuItems, menuItem.id = item.menuItemId ∧
      item.addOnSelections.mapM (resolveAddOn addOns) = .ok resolved.addOnsSnapshot ∧
      resolved.breakdown = Pricing.calculateLineItem menuItem.priceCents
        resolved.selectedOptionsSnapshot resolved.addOnsSnapshot item.quantity := by
  unfold resolveItem at h
  dsimp only at h
  split at h
  next menuItem hfind =>
    have hid := List.find?_some hfind
    simp only [decide_eq_true_eq] at hid
    change (if ¬ menuItem.isActive = true then _ else _) = _ at h
    split at h
    · obtain ⟨_, h, -⟩ := bind_eq_ok h
      cases h
    · obtain ⟨options, -, h⟩ := bind_eq_ok h
      obtain ⟨_, -, h⟩ := bind_eq_ok h
      obtain ⟨snapshot, hsnapshot, h⟩ := bind_eq_ok h
      obtain ⟨removed, -, h⟩ := bind_eq_ok h
      obtain rfl := Except.ok.inj h
      exact ⟨menuItem, List.mem_of_find?_eq_some hfind, hid, hsnapshot, rfl⟩
  next =>
    obtain ⟨_, h, -⟩ := bind_eq_ok h
    cases h

-- The entries of one add-on come from the selections that name it.
theorem filter_snapshot {selections : List POSAddOnSelection} {snapshot : List SelectedAddOn}
    (h : selections.mapM (resolveAddOn addOns) = .ok snapshot) (addOnId : Uuid) :
    (selections.filter (·.addOnId = addOnId)).mapM (resolveAddOn addOns) =
      .ok (snapshot.filter (·.addOnId = addOnId)) := by
  induction selections generalizing snapshot with
  | nil =>
      obtain rfl := Except.ok.inj h
      rfl
  | cons selection selections ih =>
      rw [List.mapM_cons] at h
      obtain ⟨selected, hselected, h⟩ := bind_eq_ok h
      obtain ⟨rest, hrest, h⟩ := bind_eq_ok h
      obtain rfl := Except.ok.inj h
      obtain ⟨addOn, -, hid, rfl, -⟩ := resolveAddOn_ok hselected
      by_cases hname : selection.addOnId = addOnId
      · rw [List.filter_cons_of_pos (by simpa using hname),
          List.filter_cons_of_pos (by simpa [hid] using hname), List.mapM_cons, hselected, ih hrest]
        rfl
      · rw [List.filter_cons_of_neg (by simpa using hname),
          List.filter_cons_of_neg (by simpa [hid] using hname), ih hrest]

theorem line_add_ons_bounded {menuItems : List MenuItem}
    (hrequest : ∀ selection ∈ item.addOnSelections, 1 ≤ selection.quantity)
    (h : resolveItem menuItems addOns item = .ok resolved) :
    (∀ selected ∈ resolved.addOnsSnapshot, ∃ addOn ∈ addOns, addOn.id = selected.addOnId ∧
        1 ≤ selected.quantity ∧ selected.quantity ≤ addOn.maxQty) ∧
      (∀ addOnId, (item.addOnSelections.map (·.addOnId)).count addOnId = 1 →
        ∃ addOn ∈ addOns, addOn.id = addOnId ∧ 1 ≤ lineTotal addOnId resolved.addOnsSnapshot ∧
          lineTotal addOnId resolved.addOnsSnapshot ≤ addOn.maxQty) ∧
      ∃ menuItem ∈ menuItems, menuItem.id = item.menuItemId ∧
        resolved.breakdown.unitPriceCents = max 0 (menuItem.priceCents +
          (resolved.selectedOptionsSnapshot.map (·.priceDeltaCents)).sum +
            (resolved.addOnsSnapshot.map fun a => a.priceCents * a.quantity).sum) := by
  obtain ⟨menuItem, hmenuItem, hid, hsnapshot, hbreakdown⟩ := resolveItem_ok h
  have hentry {selection : POSAddOnSelection} (hselection : selection ∈ item.addOnSelections)
      {selected : SelectedAddOn} (hselected : resolveAddOn addOns selection = .ok selected) :
      ∃ addOn ∈ addOns, addOn.id = selection.addOnId ∧ addOn.id = selected.addOnId ∧
        1 ≤ selected.quantity ∧ selected.quantity ≤ addOn.maxQty := by
    obtain ⟨addOn, hfind, hid, rfl, hle⟩ := resolveAddOn_ok hselected
    exact ⟨addOn, List.mem_of_find?_eq_some hfind, hid, rfl,
      (hrequest selection hselection).trans (le_max_left _ _), hle⟩
  refine ⟨fun selected hselected => ?_, fun addOnId honce => ?_, menuItem, hmenuItem, hid, ?_⟩
  · obtain ⟨selection, hselection, hresolved⟩ := mem_mapM_ok hsnapshot selected hselected
    obtain ⟨addOn, haddOn, -, hbounds⟩ := hentry hselection hresolved
    exact ⟨addOn, haddOn, hbounds⟩
  · have hlength : (item.addOnSelections.filter (·.addOnId = addOnId)).length = 1 := by
      rw [← honce, List.count, List.countP_map, List.countP_eq_length_filter]
      congr 1
    obtain ⟨selection, hnamed⟩ := List.length_eq_one_iff.mp hlength
    have hselection : selection ∈ item.addOnSelections.filter (·.addOnId = addOnId) :=
      hnamed ▸ List.mem_singleton_self _
    have hfilter := filter_snapshot hsnapshot addOnId
    rw [hnamed, List.mapM_cons] at hfilter
    obtain ⟨selected, hselected, hfilter⟩ := bind_eq_ok hfilter
    obtain ⟨addOn, haddOn, hid, -, hbounds⟩ := hentry (List.mem_filter.mp hselection).1 hselected
    have hname : selection.addOnId = addOnId := by simpa using (List.mem_filter.mp hselection).2
    refine ⟨addOn, haddOn, hid.trans hname, ?_⟩
    rw [lineTotal, ← Except.ok.inj hfilter]
    simpa using hbounds
  · rw [hbreakdown]
    rfl

def cheeseburger : MenuItem where
  id := 3
  businessId := 1
  name := "Cheeseburger"
  priceCents := 300
  optionGroups :=
    [{ id := "size", name := "Size", required := false, isEnabled := true,
       options := [⟨"half", "Half", -500, true⟩] }]
  removableIngredients := []
  addOnIds := [7]
  isActive := true
  isDeleted := false
  requiresPreparation := true

def extraCheese : MenuAddOn where
  id := 7
  businessId := 1
  name := "Extra cheese"
  priceCents := 100
  minQty := 0
  maxQty := 2
  isActive := true
  isDeleted := false

def burgerLine (selectedOptionIds : List (String × String))
    (addOnSelections : List POSAddOnSelection) : POSItemInput where
  menuItemId := 3
  quantity := 1
  selectedOptionIds := selectedOptionIds
  addOnSelections := addOnSelections
  removedIngredientIds := []
  specialInstructions := none

def resolvedBurger : ResolvedPOSItem where
  menuItemId := 3
  name := "Cheeseburger"
  breakdown := Pricing.calculateLineItem 300 [] [⟨7, "Extra cheese", 100, 2⟩] 1
  selectedOptionsSnapshot := []
  addOnsSnapshot := [⟨7, "Extra cheese", 100, 2⟩]
  removedIngredientsSnapshot := []
  specialInstructions := none
  requiresPreparation := true

theorem burger_add_ons_bounded :
    (∀ selected ∈ resolvedBurger.addOnsSnapshot, ∃ addOn ∈ [extraCheese],
        addOn.id = selected.addOnId ∧ 1 ≤ selected.quantity ∧ selected.quantity ≤ addOn.maxQty) ∧
      (∀ addOnId, ((burgerLine [] [⟨7, 2⟩]).addOnSelections.map (·.addOnId)).count addOnId = 1 →
        ∃ addOn ∈ [extraCheese], addOn.id = addOnId ∧
          1 ≤ lineTotal addOnId resolvedBurger.addOnsSnapshot ∧
            lineTotal addOnId resolvedBurger.addOnsSnapshot ≤ addOn.maxQty) ∧
      ∃ menuItem ∈ [cheeseburger], menuItem.id = (burgerLine [] [⟨7, 2⟩]).menuItemId ∧
        resolvedBurger.breakdown.unitPriceCents = max 0 (menuItem.priceCents +
          (resolvedBurger.selectedOptionsSnapshot.map (·.priceDeltaCents)).sum +
            (resolvedBurger.addOnsSnapshot.map fun a => a.priceCents * a.quantity).sum) :=
  line_add_ons_bounded (by decide) (by decide +kernel)

-- A price is cut off at zero, and a repeated add-on is counted entry by entry.
theorem burger_overrun :
    (∃ resolved, resolveItem [cheeseburger] [extraCheese] (burgerLine [("size", "half")] []) =
        .ok resolved ∧ resolved.breakdown.unitPriceCents ≠ cheeseburger.priceCents +
          (resolved.selectedOptionsSnapshot.map (·.priceDeltaCents)).sum +
            (resolved.addOnsSnapshot.map fun a => a.priceCents * a.quantity).sum) ∧
      ∃ resolved, resolveItem [cheeseburger] [extraCheese] (burgerLine [] [⟨7, 2⟩, ⟨7, 2⟩]) =
        .ok resolved ∧ extraCheese.maxQty < lineTotal 7 resolved.addOnsSnapshot :=
  ⟨⟨_, rfl, by decide +kernel⟩, _, rfl, by decide +kernel⟩

end AddOnQuantities

end NextgenBackend.Pos
