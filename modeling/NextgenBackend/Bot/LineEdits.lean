import NextgenBackend.Bot.LineDetectors

namespace NextgenBackend.Bot.Detectors

open Cart

-- What a detected edit does to a line, once the line is chosen.
inductive LineEdit where
  | instruct (specialInstructions : String)
  | restore (modifierWord : String)
  | addAddon (addon : SelectedAddOn)
  | removeAddon (addonName : String)
deriving DecidableEq

def LineEdit.onLine (text : Text) : LineEdit → Line → Line
  | .instruct specialInstructions => appendInstructions specialInstructions
  | .restore modifierWord => dropModifier text modifierWord
  | .addAddon addon => putAddon text addon
  | .removeAddon addonName => dropAddon text addonName

-- The mutators are given the name of the line and look for it again.
def LineEdit.edit (itemName : String) : LineEdit → Edit
  | .instruct specialInstructions => .instruct itemName specialInstructions
  | .restore modifierWord => .dropModifier itemName modifierWord
  | .addAddon addon => .addAddon itemName addon
  | .removeAddon addonName => .removeAddon itemName addonName

def nameAt (cart : List Line) (i : Nat) : String := (cart[i]?.map (·.name)).getD ""

def editLine (text : Text) (cart : List Line) (edit : LineEdit) (i : Nat) : List Line :=
  apply text cart (edit.edit (nameAt cart i))

-- The edits that the handlers of a message apply, and the line that each was detected on.
inductive Detects (text : Text) (addOnsFor : Uuid → List Llm.Available)
    (menuItemNames : List String) : String → List Line → LineEdit → Nat → Prop where
  | modifier {msg cart modifier i} (h : detectModifierUpdate text msg cart = some (modifier, i)) :
      Detects text addOnsFor menuItemNames msg cart (.instruct modifier) i
  | ingredient {msg cart modifier i}
      (h : detectIngredientModifierFromRemove text msg cart menuItemNames = some (modifier, i)) :
      Detects text addOnsFor menuItemNames msg cart (.instruct modifier) i
  | reversal {msg cart word i} (h : detectModifierReversal text msg cart = some (word, i)) :
      Detects text addOnsFor menuItemNames msg cart (.restore word) i
  | addition {msg cart addon i}
      (h : detectAddonAddition text addOnsFor msg cart = some (addon, i)) :
      Detects text addOnsFor menuItemNames msg cart (.addAddon addon) i
  | removal {msg cart name i} (h : detectAddonRemoval text msg cart = some (name, i)) :
      Detects text addOnsFor menuItemNames msg cart (.removeAddon name) i
  | swapOut {msg cart name addon i}
      (h : detectCompoundAddonEdit text addOnsFor msg cart = some ((name, addon), i)) :
      Detects text addOnsFor menuItemNames msg cart (.removeAddon name) i
  | swapIn {msg cart name addon i}
      (h : detectCompoundAddonEdit text addOnsFor msg cart = some ((name, addon), i)) :
      Detects text addOnsFor menuItemNames msg (editLine text cart (.removeAddon name) i)
        (.addAddon addon) i

def offers (addOnsFor : Uuid → List Llm.Available) (line : Line) (addon : SelectedAddOn) : Prop :=
  ∃ available ∈ addOnsFor line.menuItemId, available.addOnId = addon.addOnId ∧
    available.name = addon.name ∧ available.priceCents = addon.priceCents

-- An add-on that a line did not have before is one that the line's menu item offers.
def OfferedOnly (addOnsFor : Uuid → List Llm.Available) (cart cart' : List Line) : Prop :=
  ∀ (k : Nat) (line line' : Line), cart[k]? = some line → cart'[k]? = some line' →
    ∀ addon ∈ line'.addOns, addon ∈ line.addOns ∨ offers addOnsFor line addon

def first (text : Text) (cart : List Line) (i : Nat) : Option Nat :=
  cart.findIdx? (names text (nameAt cart i))

-- An edit that finds nothing to do on a line.
def Inert (text : Text) (line : Line) : LineEdit → Prop
  | .instruct specialInstructions =>
      specialInstructions = "" ∧ line.specialInstructions = some ""
  | .restore modifierWord => instructed line = true →
      keptClauses text modifierWord (line.specialInstructions.getD "") = line.specialInstructions
  | .addAddon addon => carries text addon line = true
  | .removeAddon addonName => ∀ addOn ∈ line.addOns,
      contains (text.lower addOn.name) (text.strip (text.lower addonName)) = false

def InertAt (text : Text) (cart : List Line) (edit : LineEdit) (i : Nat) : Prop :=
  ∀ line, cart[i]? = some line → Inert text line edit

variable {text : Text} {addOnsFor : Uuid → List Llm.Available} {menuItemNames : List String}
  {msg : String} {cart : List Line} {edit : LineEdit} {line : Line} {i j : Nat}
  {f : Line → Line} {p : Line → Bool} {itemName : String} {addon : SelectedAddOn} {name : String}

theorem apply_edit : apply text cart (edit.edit itemName) =
    updateFirst (names text itemName) (edit.onLine text) cart := by
  cases edit <;> rfl

theorem updateFirst_of_findIdx? (h : cart.findIdx? p = some i) :
    updateFirst p f cart = cart.modify i f := by
  induction cart generalizing i with
  | nil => cases h
  | cons line cart ih =>
      unfold updateFirst
      rw [List.findIdx?_cons] at h
      split at h
      next hp =>
        obtain rfl := Option.some.inj h
        rw [if_pos hp]
        rfl
      next hp =>
        obtain ⟨k, hk, rfl⟩ := Option.map_eq_some_iff.mp h
        rw [if_neg hp, ih hk]
        rfl

theorem length_updateFirst : (updateFirst p f cart).length = cart.length := by
  induction cart with
  | nil => rfl
  | cons line cart ih =>
      unfold updateFirst
      by_cases hp : p line
      · simp [hp]
      · simp [hp, ih]

theorem names_self : names text line.name line = true := by
  unfold names
  rw [Bool.or_eq_true]
  left
  simpa [Cart.contains] using text.strip_infix (text.lower line.name)

theorem first_isSome (hi : i < cart.length) : ∃ j, first text cart i = some j ∧ j ≤ i := by
  have hname : nameAt cart i = cart[i].name := by simp [nameAt, hi]
  unfold first
  cases hfound : cart.findIdx? (names text (nameAt cart i)) with
  | none =>
      have hnot := List.findIdx?_eq_none_iff.mp hfound cart[i] (List.getElem_mem hi)
      rw [hname, names_self] at hnot
      cases hnot
  | some j =>
      refine ⟨j, rfl, ?_⟩
      obtain ⟨hj, -, hbefore⟩ := List.findIdx?_eq_some_iff_getElem.mp hfound
      by_contra hlt
      have hnot := hbefore i (by omega)
      rw [hname, names_self] at hnot
      exact hnot rfl

theorem editLine_first (h : first text cart i = some j) :
    editLine text cart edit i = cart.modify j (edit.onLine text) := by
  rw [editLine, apply_edit, updateFirst_of_findIdx? h]

theorem modify_eq_self_iff (hi : i < cart.length) : cart.modify i f = cart ↔ f cart[i] = cart[i] := by
  constructor
  · intro h
    have hget : (cart.modify i f)[i]? = cart[i]? := by rw [h]
    simpa [hi] using hget
  · intro h
    refine List.ext_getElem? fun k => ?_
    rw [List.getElem?_modify]
    by_cases hik : i = k
    · subst hik
      simp [hi, h]
    · simp [hik]

theorem modify_eq_iff (hi : i < cart.length) (hj : j < cart.length) (hne : j ≠ i) :
    cart.modify j f = cart.modify i f ↔ f cart[i] = cart[i] ∧ f cart[j] = cart[j] := by
  constructor
  · intro h
    have hati : (cart.modify j f)[i]? = (cart.modify i f)[i]? := by rw [h]
    have hatj : (cart.modify j f)[j]? = (cart.modify i f)[j]? := by rw [h]
    constructor
    · have hkept : cart[i] = f cart[i] := by simpa [hi, hne] using hati
      exact hkept.symm
    · simpa [hj, Ne.symm hne] using hatj
  · rintro ⟨hfi, hfj⟩
    rw [(modify_eq_self_iff hj).mpr hfj, (modify_eq_self_iff hi).mpr hfi]

theorem appendInstructions_eq_self {s : String} :
    appendInstructions s line = line ↔ s = "" ∧ line.specialInstructions = some "" := by
  have hline : appendInstructions s line = line ↔ some (if instructed line then
      line.specialInstructions.getD "" ++ ", " ++ s else s) = line.specialInstructions :=
    ⟨congrArg Line.specialInstructions, fun h => by unfold appendInstructions; rw [h]⟩
  rw [hline]
  cases hinstr : line.specialInstructions with
  | none => simp
  | some old =>
      rw [Option.some.injEq, Option.some.injEq, Option.getD_some]
      have hinstructed : instructed line = decide (old ≠ "") := by simp [instructed, hinstr]
      by_cases hold : old = ""
      · simp [hinstructed, hold]
      · simp only [hinstructed, hold, ne_eq, not_false_eq_true, decide_true, if_true, and_false,
          iff_false]
        intro h
        have hlength := congrArg String.length h
        have hcomma : (", " : String).length = 2 := rfl
        rw [String.length_append, String.length_append, hcomma] at hlength
        omega

theorem dropModifier_eq_self {word : String} : dropModifier text word line = line ↔
    (instructed line = true →
      keptClauses text word (line.specialInstructions.getD "") = line.specialInstructions) := by
  unfold dropModifier
  split
  next h =>
    constructor
    · exact fun hline _ => congrArg Line.specialInstructions hline
    · intro hkept
      rw [hkept h]
  next h => simp [h]

theorem putAddon_eq_self : putAddon text addon line = line ↔ carries text addon line = true := by
  unfold putAddon
  split
  next h => simp [h]
  next h =>
    simp only [h]
    constructor
    · intro hline
      have hlength := congrArg (fun line => line.addOns.length) hline
      simp [reprice] at hlength
    · intro hfalse
      cases hfalse

theorem dropAddon_eq_self : dropAddon text name line = line ↔ ∀ addOn ∈ line.addOns,
    contains (text.lower addOn.name) (text.strip (text.lower name)) = false := by
  have hkept : (remainingAddOns text name line).length = line.addOns.length ↔
      ∀ addOn ∈ line.addOns,
        contains (text.lower addOn.name) (text.strip (text.lower name)) = false := by
    rw [remainingAddOns, List.length_filter_eq_length_iff]
    simp
  rw [← hkept, dropAddon]
  by_cases h : (remainingAddOns text name line).length = line.addOns.length
  · simp [h]
  · simp only [h, if_false, iff_false]
    intro hline
    exact h (congrArg (fun line => line.addOns.length) hline)

theorem inert_iff : Inert text line edit ↔ edit.onLine text line = line := by
  cases edit with
  | instruct s => exact appendInstructions_eq_self.symm
  | restore word => exact dropModifier_eq_self.symm
  | addAddon addon => exact putAddon_eq_self.symm
  | removeAddon name => exact dropAddon_eq_self.symm

theorem inertAt_iff (hi : i < cart.length) :
    InertAt text cart edit i ↔ edit.onLine text cart[i] = cart[i] := by
  rw [← inert_iff]
  unfold InertAt
  simp [hi]

-- The edit reaches the line it was detected on and no other.
theorem editLine_iff (hi : i < cart.length) :
    editLine text cart edit i = cart.modify i (edit.onLine text) ↔
      first text cart i = some i ∨
        ∃ j, first text cart i = some j ∧ InertAt text cart edit i ∧ InertAt text cart edit j := by
  obtain ⟨j, hj, hle⟩ : ∃ j, first text cart i = some j ∧ j ≤ i := first_isSome hi
  rw [editLine_first hj, hj]
  by_cases hji : j = i
  · simp [hji]
  · have hlt : j < cart.length := by omega
    simp [hji, modify_eq_iff hi hlt hji, inertAt_iff hi, inertAt_iff hlt]

theorem firstWith_spec {α : Type} {g : Line → Option α} {a : α}
    (h : firstWith g cart = some (a, i)) : ∃ line, cart[i]? = some line ∧ g line = some a := by
  obtain ⟨entry, hmem, hentry⟩ := List.exists_of_findSome?_eq_some h
  obtain ⟨a', ha', hpair⟩ := Option.map_eq_some_iff.mp hentry
  obtain ⟨rfl, rfl⟩ := Prod.mk.inj hpair
  exact ⟨entry.1, List.mem_zipIdx_iff_getElem?.mp hmem, ha'⟩

theorem onLine_menuItemId : (edit.onLine text line).menuItemId = line.menuItemId := by
  cases edit with
  | instruct s => rfl
  | restore word =>
      simp only [LineEdit.onLine, dropModifier]
      split <;> rfl
  | addAddon addon =>
      simp only [LineEdit.onLine, putAddon]
      split <;> rfl
  | removeAddon name =>
      simp only [LineEdit.onLine, dropAddon]
      split <;> rfl

theorem editLine_menuItemId : (editLine text cart edit i).map (·.menuItemId) =
    cart.map (·.menuItemId) := by
  rw [editLine, apply_edit]
  generalize names text (nameAt cart i) = p
  induction cart with
  | nil => rfl
  | cons line cart ih =>
      unfold updateFirst
      by_cases hp : p line
      · simp [hp, onLine_menuItemId]
      · simp [hp, ih]

theorem editLine_itemIdAt : (editLine text cart edit j)[i]?.map (·.menuItemId) =
    cart[i]?.map (·.menuItemId) := by
  rw [← List.getElem?_map, editLine_menuItemId, List.getElem?_map]

theorem mem_addOnCandidates {addOn : Llm.Available} {msgLower : String}
    (h : (addOn, i) ∈ addOnCandidates text addOnsFor msgLower cart) :
    ∃ line, cart[i]? = some line ∧ addOn ∈ addOnsFor line.menuItemId := by
  obtain ⟨named, hnamed, hmem⟩ := List.mem_flatten.mp h
  obtain ⟨entry, hentry, rfl⟩ := List.mem_map.mp hnamed
  obtain ⟨addOn', haddOn, hpair⟩ := List.mem_map.mp hmem
  obtain ⟨rfl, rfl⟩ := Prod.mk.inj hpair
  exact ⟨entry.1, List.mem_zipIdx_iff_getElem?.mp hentry, List.mem_of_mem_filter haddOn⟩

theorem lt_of_findIdx? (h : cart.findIdx? p = some i) : i < cart.length :=
  (List.findIdx?_eq_some_iff_getElem.mp h).1

theorem lt_of_getElem? (h : cart[i]? = some line) : i < cart.length :=
  (List.getElem?_eq_some_iff.mp h).1

theorem detectModifierUpdate_lt {modifier : String}
    (h : detectModifierUpdate text msg cart = some (modifier, i)) : i < cart.length := by
  obtain ⟨m, -, h⟩ := Option.bind_eq_some_iff.mp h
  obtain ⟨k, hk, hpair⟩ := Option.map_eq_some_iff.mp h
  obtain ⟨-, rfl⟩ := Prod.mk.inj hpair
  exact lt_of_findIdx? hk

theorem detectIngredientModifierFromRemove_lt {modifier : String}
    (h : detectIngredientModifierFromRemove text msg cart menuItemNames = some (modifier, i)) :
    i < cart.length := by
  simp only [detectIngredientModifierFromRemove] at h
  split at h
  next => cases h
  next =>
    obtain ⟨k, hk, hpair⟩ := Option.map_eq_some_iff.mp h
    obtain ⟨-, rfl⟩ := Prod.mk.inj hpair
    rcases Option.or_eq_some_iff.mp hk with hk | ⟨-, hk⟩
    · rcases Option.or_eq_some_iff.mp hk with hk | ⟨-, hk⟩
      · obtain ⟨m, -, hk⟩ := Option.bind_eq_some_iff.mp hk
        exact lt_of_findIdx? hk
      · exact lt_of_findIdx? hk
    · unfold soleLine at hk
      split at hk
      next hlength =>
        obtain rfl := Option.some.inj hk
        omega
      next => cases hk

theorem detectModifierReversal_lt {word : String}
    (h : detectModifierReversal text msg cart = some (word, i)) : i < cart.length := by
  simp only [detectModifierReversal] at h
  split at h
  next => cases h
  next =>
    obtain ⟨m, -, h⟩ := List.exists_of_findSome?_eq_some h
    split at h
    next => cases h
    next =>
      obtain ⟨k, hk, hpair⟩ := Option.map_eq_some_iff.mp h
      obtain ⟨-, rfl⟩ := Prod.mk.inj hpair
      exact lt_of_findIdx? hk

theorem detectAddonAddition_spec (h : detectAddonAddition text addOnsFor msg cart = some (addon, i)) :
    ∃ line, cart[i]? = some line ∧ offers addOnsFor line addon := by
  simp only [detectAddonAddition] at h
  split at h
  next => cases h
  next =>
    split at h
    next addOn k hcandidates =>
      obtain ⟨rfl, rfl⟩ := Prod.mk.inj (Option.some.inj h)
      obtain ⟨line, hline, hmem⟩ := mem_addOnCandidates (hcandidates ▸ List.mem_singleton_self _)
      exact ⟨line, hline, addOn, hmem, rfl, rfl, rfl⟩
    next => cases h

theorem detectAddonRemoval_lt (h : detectAddonRemoval text msg cart = some (name, i)) :
    i < cart.length := by
  simp only [detectAddonRemoval] at h
  split at h
  next => cases h
  next =>
    obtain ⟨m, -, h⟩ := Option.bind_eq_some_iff.mp h
    split at h
    next => cases h
    next =>
      obtain ⟨line, hline, -⟩ := firstWith_spec h
      exact lt_of_getElem? hline

theorem mem_dictOf {α : Type} {entries : List (String × α)} {entry : String × α}
    (h : entry ∈ Llm.dictOf entries) : entry ∈ entries := by
  have hfold (old : List (String × α)) (hentry : entry ∈ entries.foldl (fun dict entry =>
      if dict.any fun old => old.1 = entry.1 then
        dict.map fun old => if old.1 = entry.1 then entry else old
      else dict ++ [entry]) old) : entry ∈ old ∨ entry ∈ entries := by
    clear h
    induction entries generalizing old with
    | nil => exact .inl hentry
    | cons new entries ih =>
        rcases ih _ hentry with hold | hrest
        · dsimp only at hold
          split at hold
          · obtain ⟨kept, hkept, hsame⟩ := List.mem_map.mp hold
            split at hsame
            · exact .inr (hsame ▸ List.mem_cons_self)
            · exact .inl (hsame ▸ hkept)
          · rcases List.mem_append.mp hold with hold | hnew
            · exact .inl hold
            · exact .inr (List.mem_singleton.mp hnew ▸ List.mem_cons_self)
        · exact .inr (List.mem_cons_of_mem _ hrest)
  exact (hfold [] h).resolve_left List.not_mem_nil

theorem detectCompoundAddonEdit_spec
    (h : detectCompoundAddonEdit text addOnsFor msg cart = some ((name, addon), i)) :
    ∃ line, cart[i]? = some line ∧ offers addOnsFor line addon := by
  simp only [detectCompoundAddonEdit] at h
  obtain ⟨remove, -, h⟩ := Option.bind_eq_some_iff.mp h
  obtain ⟨add, -, h⟩ := Option.bind_eq_some_iff.mp h
  split at h
  next => cases h
  next =>
    obtain ⟨line, hline, hswap⟩ := firstWith_spec h
    obtain ⟨found, -, hswap⟩ := Option.bind_eq_some_iff.mp hswap
    obtain ⟨entry, hentry, hpair⟩ := Option.map_eq_some_iff.mp hswap
    obtain ⟨-, rfl⟩ := Prod.mk.inj hpair
    obtain ⟨available, havailable, rfl⟩ :=
      List.mem_map.mp (mem_dictOf (List.mem_of_find?_eq_some hentry))
    exact ⟨line, hline, available, havailable, rfl, rfl, rfl⟩

theorem Detects.lt (h : Detects text addOnsFor menuItemNames msg cart edit i) : i < cart.length := by
  cases h with
  | modifier h => exact detectModifierUpdate_lt h
  | ingredient h => exact detectIngredientModifierFromRemove_lt h
  | reversal h => exact detectModifierReversal_lt h
  | addition h =>
      obtain ⟨line, hline, -⟩ := detectAddonAddition_spec h
      exact lt_of_getElem? hline
  | removal h => exact detectAddonRemoval_lt h
  | swapOut h =>
      obtain ⟨line, hline, -⟩ := detectCompoundAddonEdit_spec h
      exact lt_of_getElem? hline
  | swapIn h =>
      obtain ⟨line, hline, -⟩ := detectCompoundAddonEdit_spec h
      rw [editLine, apply_edit, length_updateFirst]
      exact lt_of_getElem? hline

theorem Detects.offered (h : Detects text addOnsFor menuItemNames msg cart (.addAddon addon) i)
    (hline : cart[i]? = some line) : offers addOnsFor line addon := by
  cases h with
  | addition h =>
      obtain ⟨line', hline', hoffers⟩ := detectAddonAddition_spec h
      obtain rfl := Option.some.inj (hline.symm.trans hline')
      exact hoffers
  | swapIn h =>
      obtain ⟨line', hline', hoffers⟩ := detectCompoundAddonEdit_spec h
      have hsame := congrArg (Option.map (·.menuItemId)) hline
      rw [editLine_itemIdAt, hline'] at hsame
      have hitem : line'.menuItemId = line.menuItemId := Option.some.inj hsame
      unfold offers
      rw [← hitem]
      exact hoffers

theorem offeredOnly_modify (hlt : i < cart.length)
    (hoffered : ∀ addon, edit = .addAddon addon → offers addOnsFor cart[i] addon) :
    OfferedOnly addOnsFor cart (cart.modify i (edit.onLine text)) := by
  intro k line line' hline hline' addon haddon
  rw [List.getElem?_modify, hline] at hline'
  by_cases hik : i = k
  · subst hik
    obtain rfl : cart[i] = line := by simpa [hlt] using hline
    obtain rfl : edit.onLine text cart[i] = line' := by simpa using hline'
    cases edit with
    | instruct s => exact .inl haddon
    | restore word =>
        simp only [LineEdit.onLine, dropModifier] at haddon
        split at haddon <;> exact .inl haddon
    | addAddon new =>
        simp only [LineEdit.onLine, putAddon] at haddon
        split at haddon
        · exact .inl haddon
        · rcases List.mem_append.mp haddon with hold | hnew
          · exact .inl hold
          · obtain rfl := List.mem_singleton.mp hnew
            exact .inr (hoffered _ rfl)
    | removeAddon name =>
        simp only [LineEdit.onLine, dropAddon] at haddon
        split at haddon
        · exact .inl haddon
        · exact .inl (List.mem_of_mem_filter haddon)
  · obtain rfl : line = line' := by simpa [hik] using hline'
    exact .inl haddon

theorem detected_edit_exact_iff (h : Detects text addOnsFor menuItemNames msg cart edit i) :
    (editLine text cart edit i = cart.modify i (edit.onLine text) ∧
        OfferedOnly addOnsFor cart (editLine text cart edit i)) ↔
      first text cart i = some i ∨
        ∃ j, first text cart i = some j ∧ InertAt text cart edit i ∧ InertAt text cart edit j := by
  rw [← editLine_iff h.lt]
  refine ⟨And.left, fun hexact => ⟨hexact, ?_⟩⟩
  rw [hexact]
  refine offeredOnly_modify h.lt fun addon hadd => ?_
  subst hadd
  exact h.offered (List.getElem?_eq_getElem h.lt)

def extraPatty : Llm.Available where
  addOnId := 7
  name := "extra patty"
  priceCents := 2500
  minQty := 0
  maxQty := 3
  defaultQty := 1

def smashAddOns (itemId : Uuid) : List Llm.Available := if itemId = 2 then [extraPatty] else []

def plainBurger : Line := newLine { menuItemId := 1, name := "burger", priceCents := 5000 }

def smashBurger : Line := newLine { menuItemId := 2, name := "smash burger", priceCents := 7000 }

theorem patty_on_smash_burger :
    editLine plainText [smashBurger] (.addAddon (Llm.selectedAddOn extraPatty 1)) 0 =
      [putAddon plainText (Llm.selectedAddOn extraPatty 1) smashBurger] := by
  have hdetected : Detects plainText smashAddOns [] "add extra patty" [smashBurger]
      (.addAddon (Llm.selectedAddOn extraPatty 1)) 0 := .addition (by decide +kernel)
  exact ((detected_edit_exact_iff hdetected).mpr (.inl (by decide +kernel))).1

-- The patty of the smash burger lands on the plain one, which does not offer it.
theorem patty_on_plain_burger : ¬ ∀ (text : Text) (addOnsFor : Uuid → List Llm.Available)
    (menuItemNames : List String) (msg : String) (cart : List Line) (edit : LineEdit) (i : Nat),
      Detects text addOnsFor menuItemNames msg cart edit i →
        editLine text cart edit i = cart.modify i (edit.onLine text) ∧
          OfferedOnly addOnsFor cart (editLine text cart edit i) := by
  intro h
  have hdetected : Detects plainText smashAddOns [] "add extra patty" [plainBurger, smashBurger]
      (.addAddon (Llm.selectedAddOn extraPatty 1)) 1 := .addition (by decide +kernel)
  exact absurd (h _ _ _ _ _ _ _ hdetected).1 (by decide +kernel)

end NextgenBackend.Bot.Detectors
