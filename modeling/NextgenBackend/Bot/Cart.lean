import Mathlib
import NextgenBackend.Library.Run
import NextgenBackend.Shared.Pricing

namespace NextgenBackend.Bot.Cart

-- The string operations of the platform.
structure Text where
  lower : String → String
  strip : String → String
  words : String → List String
  strip_infix : ∀ s, (strip s).toList <:+: s.toList

def contains (hay needle : String) : Bool :=
  decide (needle.toList <:+: hay.toList)

structure Line where
  menuItemId : Uuid
  name : String
  priceCents : Cents
  basePriceCents : Cents
  selectedOptions : List SelectedOption
  addOns : List SelectedAddOn
  optionAdjustmentCents : Cents
  addOnTotalCents : Cents
  unitPriceCents : Cents
  quantity : Int
  lineTotalCents : Cents
  options : Option (List (String × String))
  specialInstructions : Option String
deriving DecidableEq, Repr

structure NewItem where
  menuItemId : Uuid
  name : String
  priceCents : Cents
  quantity : Int := 1
  selectedOptions : List SelectedOption := []
  addOns : List SelectedAddOn := []
  options : Option (List (String × String)) := none
  specialInstructions : Option String := none
deriving DecidableEq, Repr

def updateFirst (p : Line → Bool) (f : Line → Line) : List Line → List Line
  | [] => []
  | line :: cart => if p line then f line :: cart else line :: updateFirst p f cart

def setQuantity (quantity : Int) (line : Line) : Line :=
  { line with quantity := quantity, lineTotalCents := line.priceCents * quantity }

def newLine (item : NewItem) : Line :=
  let breakdown := Pricing.calculateLineItem item.priceCents item.selectedOptions item.addOns
    item.quantity
  { menuItemId := item.menuItemId
    name := item.name
    priceCents := breakdown.unitPriceCents
    basePriceCents := item.priceCents
    selectedOptions := item.selectedOptions
    addOns := item.addOns
    optionAdjustmentCents := breakdown.optionAdjustmentCents
    addOnTotalCents := breakdown.addOnTotalCents
    unitPriceCents := breakdown.unitPriceCents
    quantity := item.quantity
    lineTotalCents := breakdown.lineTotalCents
    options := item.options
    specialInstructions := item.specialInstructions }

def accumulates (item : NewItem) (line : Line) : Bool :=
  line.menuItemId = item.menuItemId ∧ line.selectedOptions = item.selectedOptions ∧
    line.addOns = item.addOns ∧ line.specialInstructions = item.specialInstructions

def addToCart (cart : List Line) (item : NewItem) : List Line :=
  if cart.any (accumulates item) then
    updateFirst (accumulates item) (fun line => setQuantity (line.quantity + item.quantity) line) cart
  else cart ++ [newLine item]

def plainWords : List String := ["plain", "normal", "original", "regular", "without"]

def instructed (line : Line) : Bool :=
  line.specialInstructions.any (· ≠ "")

def qualifies (text : Text) (hint : String) (line : Line) : Bool :=
  let hint := text.lower hint
  if plainWords.any (text.words hint).contains then !instructed line
  else
    let instructions := text.lower (line.specialInstructions.getD "")
    instructions ≠ "" && (text.words instructions).any (contains hint)

def removalTarget (text : Text) (cart : List Line) (itemName : String) (hint : Option String) :
    Option Nat :=
  let candidate := fun line : Line =>
    contains (text.lower line.name) (text.strip (text.lower itemName))
  let first := cart.findIdx? candidate
  match hint with
  | none => first
  | some hint =>
      if hint ≠ "" ∧ 1 < (cart.filter candidate).length then
        (cart.findIdx? fun line => candidate line && qualifies text hint line).or first
      else first

def removeFromCart (text : Text) (cart : List Line) (itemName : String) (quantity : Option Int)
    (hint : Option String) : List Line × Bool :=
  match removalTarget text cart itemName hint with
  | none => (cart, false)
  | some i =>
      match quantity.filter fun quantity => cart[i]?.any fun line => quantity < line.quantity with
      | some quantity => (cart.modify i fun line => setQuantity (line.quantity - quantity) line, true)
      | none => (cart.eraseIdx i, true)

def names (text : Text) (itemName : String) (line : Line) : Bool :=
  contains (text.lower line.name) (text.strip (text.lower itemName)) ||
    contains (text.strip (text.lower itemName)) (text.lower line.name)

def appendInstructions (specialInstructions : String) (line : Line) : Line :=
  { line with
    specialInstructions := some
      (if instructed line then line.specialInstructions.getD "" ++ ", " ++ specialInstructions
        else specialInstructions) }

def updateCartItemInstructions (text : Text) (cart : List Line)
    (itemName specialInstructions : String) : List Line × Bool :=
  (updateFirst (names text itemName) (appendInstructions specialInstructions) cart,
    cart.any (names text itemName))

def keptClauses (text : Text) (modifierWord : String) (existing : String) : Option String :=
  let clauses := ((existing.splitOn ",").map text.strip).filter fun clause =>
    !contains (text.lower clause) (text.strip (text.lower modifierWord))
  if clauses = [] then none else some (", ".intercalate clauses)

def dropModifier (text : Text) (modifierWord : String) (line : Line) : Line :=
  if instructed line then
    { line with
      specialInstructions := keptClauses text modifierWord (line.specialInstructions.getD "") }
  else line

def removeModifierFromInstructions (text : Text) (cart : List Line)
    (itemName modifierWord : String) : List Line × Bool :=
  (updateFirst (names text itemName) (dropModifier text modifierWord) cart,
    (cart.find? (names text itemName)).any fun line =>
      (dropModifier text modifierWord line).specialInstructions ≠ line.specialInstructions)

-- A base price of zero counts as missing, and the unit price stands in for it.
def repriceBase (line : Line) : Cents :=
  if line.basePriceCents = 0 then line.priceCents else line.basePriceCents

def reprice (line : Line) (addOns : List SelectedAddOn) : Line :=
  let breakdown := Pricing.calculateLineItem (repriceBase line) line.selectedOptions addOns
    line.quantity
  { line with
    addOns := addOns
    priceCents := breakdown.unitPriceCents
    unitPriceCents := breakdown.unitPriceCents
    addOnTotalCents := breakdown.addOnTotalCents
    lineTotalCents := breakdown.lineTotalCents }

def remainingAddOns (text : Text) (addonName : String) (line : Line) : List SelectedAddOn :=
  line.addOns.filter fun addOn =>
    !contains (text.lower addOn.name) (text.strip (text.lower addonName))

def dropAddon (text : Text) (addonName : String) (line : Line) : Line :=
  let remaining := remainingAddOns text addonName line
  if remaining.length = line.addOns.length then line else reprice line remaining

def removeAddonFromCartItem (text : Text) (cart : List Line) (itemName addonName : String) :
    List Line × Bool :=
  (updateFirst (names text itemName) (dropAddon text addonName) cart,
    (cart.find? (names text itemName)).any fun line =>
      (remainingAddOns text addonName line).length ≠ line.addOns.length)

def carries (text : Text) (addon : SelectedAddOn) (line : Line) : Bool :=
  line.addOns.any fun addOn => text.lower addOn.name = text.lower addon.name

def putAddon (text : Text) (addon : SelectedAddOn) (line : Line) : Line :=
  if carries text addon line then line else reprice line (line.addOns ++ [addon])

def addAddonToCartItem (text : Text) (cart : List Line) (itemName : String)
    (addon : SelectedAddOn) : List Line × Bool :=
  (updateFirst (names text itemName) (putAddon text addon) cart, cart.any (names text itemName))

-- The line a quantity correction names is found again by its contents.
def corrects (target line : Line) : Bool :=
  line.menuItemId = target.menuItemId ∧ line.selectedOptions = target.selectedOptions ∧
    line.addOns = target.addOns ∧ line.specialInstructions = target.specialInstructions ∧
      line.quantity = target.quantity

def correctQuantity (cart : List Line) (target : Line) (quantity : Int) : List Line :=
  updateFirst (corrects target) (setQuantity quantity) cart

inductive Edit where
  | add (item : NewItem)
  | remove (itemName : String) (quantity : Option Int) (hint : Option String)
  | instruct (itemName specialInstructions : String)
  | dropModifier (itemName modifierWord : String)
  | addAddon (itemName : String) (addon : SelectedAddOn)
  | removeAddon (itemName addonName : String)
  | correctQuantity (target : Line) (quantity : Int)
  | clear
deriving DecidableEq, Repr

def apply (text : Text) (cart : List Line) : Edit → List Line
  | .add item => addToCart cart item
  | .remove itemName quantity hint => (removeFromCart text cart itemName quantity hint).1
  | .instruct itemName instructions =>
      (updateCartItemInstructions text cart itemName instructions).1
  | .dropModifier itemName modifierWord =>
      (removeModifierFromInstructions text cart itemName modifierWord).1
  | .addAddon itemName addon => (addAddonToCartItem text cart itemName addon).1
  | .removeAddon itemName addonName => (removeAddonFromCartItem text cart itemName addonName).1
  | .correctQuantity target quantity => correctQuantity cart target quantity
  | .clear => []

def Next (text : Text) (cart : List Line) (edit : Edit) (cart' : List Line) : Prop :=
  cart' = apply text cart edit

structure LineLaw (line : Line) : Prop where
  options : line.optionAdjustmentCents = Pricing.optionAdjustment line.selectedOptions
  addOns : line.addOnTotalCents = Pricing.addOnTotal line.addOns
  unit : line.unitPriceCents = max 0 (line.basePriceCents +
    Pricing.optionAdjustment line.selectedOptions + Pricing.addOnTotal line.addOns)
  price : line.priceCents = line.unitPriceCents
  total : line.lineTotalCents = line.unitPriceCents * line.quantity

def Lawful (cart : List Line) : Prop := ∀ line ∈ cart, LineLaw line

-- Where the base price is zero, the unit price that stands in for it makes no difference.
def Repriceable (line : Line) (addOns : List SelectedAddOn) : Prop :=
  line.basePriceCents ≠ 0 ∨ line.priceCents = 0 ∨
    line.priceCents + Pricing.optionAdjustment line.selectedOptions + Pricing.addOnTotal addOns ≤ 0

def Sound (text : Text) (cart : List Line) : Edit → Prop
  | .addAddon itemName addon => ∀ line, cart.find? (names text itemName) = some line →
      carries text addon line = false → Repriceable line (line.addOns ++ [addon])
  | .removeAddon itemName addonName => ∀ line, cart.find? (names text itemName) = some line →
      (remainingAddOns text addonName line).length ≠ line.addOns.length →
        Repriceable line (remainingAddOns text addonName line)
  | _ => True

variable {text : Text} {cart cart' : List Line} {line : Line} {p : Line → Bool} {f : Line → Line}
  {quantity : Int} {addOns : List SelectedAddOn} {addon : SelectedAddOn} {edit : Edit}
  {itemName addonName : String} {item : NewItem} {steps : List (Edit × List Line)}

theorem lineLaw_newLine : LineLaw (newLine item) where
  options := rfl
  addOns := rfl
  unit := rfl
  price := rfl
  total := rfl

theorem LineLaw.setQuantity (h : LineLaw line) : LineLaw (Cart.setQuantity quantity line) :=
  { h with total := by simp [Cart.setQuantity, h.price] }

theorem LineLaw.withInstructions (h : LineLaw line) (instructions : Option String) :
    LineLaw { line with specialInstructions := instructions } :=
  { h with }

theorem max_add_eq_iff {price rest : Int} (h : 0 ≤ price) :
    max 0 (price + rest) = max 0 rest ↔ price = 0 ∨ price + rest ≤ 0 := by
  omega

theorem reprice_law_iff (h : LineLaw line) :
    LineLaw (reprice line addOns) ↔ Repriceable line addOns := by
  have hprice : line.priceCents = max 0 (line.basePriceCents +
      Pricing.optionAdjustment line.selectedOptions + Pricing.addOnTotal line.addOns) :=
    h.price.trans h.unit
  have hnonneg : 0 ≤ line.priceCents := hprice ▸ le_max_left _ _
  have hunit : LineLaw (reprice line addOns) ↔
      max 0 (repriceBase line + Pricing.optionAdjustment line.selectedOptions +
        Pricing.addOnTotal addOns) = max 0 (line.basePriceCents +
          Pricing.optionAdjustment line.selectedOptions + Pricing.addOnTotal addOns) :=
    ⟨fun hlaw => hlaw.unit, fun hunit => ⟨h.options, rfl, hunit, rfl, rfl⟩⟩
  rw [hunit]
  unfold repriceBase Repriceable
  split
  next hzero =>
    rw [hzero, zero_add, add_assoc, max_add_eq_iff hnonneg, ← add_assoc]
    simp
  next hbase => simp [hbase]

theorem updateFirst_iff {P : Line → Prop} (h : ∀ line ∈ cart, P line) :
    (∀ line ∈ updateFirst p f cart, P line) ↔ ∀ line, cart.find? p = some line → P (f line) := by
  induction cart with
  | nil => simp [updateFirst]
  | cons line cart ih =>
      rw [List.forall_mem_cons] at h
      unfold updateFirst
      by_cases hp : p line
      · simpa [hp] using fun _ => h.2
      · simpa [hp, h.1] using ih h.2

theorem lawful_updateFirst (h : Lawful cart) (hf : ∀ line, LineLaw line → LineLaw (f line)) :
    Lawful (updateFirst p f cart) :=
  (updateFirst_iff h).mpr fun line hline => hf line (h line (List.mem_of_find?_eq_some hline))

theorem lawful_addToCart (h : Lawful cart) : Lawful (addToCart cart item) := by
  unfold addToCart
  split
  · exact lawful_updateFirst h fun line hline => hline.setQuantity
  · exact List.forall_mem_append.mpr ⟨h, by simpa using lineLaw_newLine⟩

theorem lawful_removeFromCart {hint : Option String} {count : Option Int} (h : Lawful cart) :
    Lawful (removeFromCart text cart itemName count hint).1 := by
  unfold removeFromCart
  split
  · exact h
  split
  · intro line hline
    obtain ⟨i, hi, rfl⟩ := List.getElem_of_mem hline
    have hlength : i < cart.length := by simpa using hi
    have hlaw := h cart[i] (List.getElem_mem hlength)
    rw [List.getElem_modify]
    split
    · exact hlaw.setQuantity
    · exact hlaw
  · exact fun line hline => h line (List.mem_of_mem_eraseIdx hline)

theorem lawful_apply_iff (h : Lawful cart) : Lawful (apply text cart edit) ↔ Sound text cart edit := by
  have hkeeps {cart' : List Line} (hlawful : Lawful cart') : Lawful cart' ↔ True :=
    iff_true_intro hlawful
  cases edit with
  | add item => exact hkeeps (lawful_addToCart h)
  | remove itemName count hint => exact hkeeps (lawful_removeFromCart h)
  | instruct itemName instructions =>
      exact hkeeps (lawful_updateFirst h fun line hline => hline.withInstructions _)
  | dropModifier itemName modifierWord =>
      refine hkeeps (lawful_updateFirst h fun line hline => ?_)
      unfold dropModifier
      split
      · exact hline.withInstructions _
      · exact hline
  | addAddon itemName addon =>
      refine (updateFirst_iff h).trans (forall₂_congr fun line hline => ?_)
      have hlaw := h line (List.mem_of_find?_eq_some hline)
      unfold putAddon
      cases hcarries : carries text addon line with
      | true => simpa using hlaw
      | false => simpa using reprice_law_iff hlaw
  | removeAddon itemName addonName =>
      refine (updateFirst_iff h).trans (forall₂_congr fun line hline => ?_)
      have hlaw := h line (List.mem_of_find?_eq_some hline)
      unfold dropAddon
      by_cases hkept : (remainingAddOns text addonName line).length = line.addOns.length
      · simpa [hkept] using hlaw
      · simpa [hkept] using reprice_law_iff hlaw
  | correctQuantity target count =>
      exact hkeeps (lawful_updateFirst h fun line hline => hline.setQuantity)
  | clear => exact hkeeps (by simp [Lawful, apply])

theorem lawful_run_iff (h : Lawful cart) (hrun : Run.Along (Next text) cart steps) :
    Run.Along (fun _ _ cart' => Lawful cart') cart steps ↔
      Run.Along (fun cart edit _ => Sound text cart edit) cart steps := by
  induction steps generalizing cart with
  | nil => exact Iff.rfl
  | cons step steps ih =>
      obtain ⟨edit, cart'⟩ := step
      obtain ⟨hstep, hrest⟩ := hrun
      have hhead : Lawful cart' ↔ Sound text cart edit := by
        rw [hstep]
        exact lawful_apply_iff h
      constructor
      · exact fun ⟨hlawful, hall⟩ => ⟨hhead.mp hlawful, (ih hlawful hrest).mp hall⟩
      · exact fun ⟨hsound, hall⟩ =>
          ⟨hhead.mpr hsound, (ih (hhead.mpr hsound) hrest).mpr hall⟩

theorem names_putAddon : names text itemName (putAddon text addon line) = names text itemName line := by
  unfold putAddon
  split <;> rfl

theorem updateFirst_updateFirst {g : Line → Line} (hp : ∀ line, p (f line) = p line) :
    updateFirst p g (updateFirst p f cart) = updateFirst p (fun line => g (f line)) cart := by
  induction cart with
  | nil => rfl
  | cons line cart ih =>
      unfold updateFirst
      by_cases hline : p line
      · simp [hline, updateFirst, hp]
      · simp [hline, updateFirst, ih]

theorem find?_updateFirst (hp : ∀ line, p (f line) = p line) :
    (updateFirst p f cart).find? p = (cart.find? p).map f := by
  induction cart with
  | nil => rfl
  | cons line cart ih =>
      unfold updateFirst
      by_cases hline : p line
      · simp [hline, hp]
      · simp [hline, ih]

theorem updateFirst_eq_self (h : ∀ line, cart.find? p = some line → f line = line) :
    updateFirst p f cart = cart := by
  induction cart with
  | nil => rfl
  | cons line cart ih =>
      unfold updateFirst
      by_cases hline : p line
      · simp [hline, h line (by simp [hline])]
      · simp only [hline]
        rw [ih (fun line' hfound => h line' (by simpa [hline] using hfound))]
        rfl

theorem LineLaw.prices_determined {price addOnTotal unitPrice lineTotal : Cents} (h : LineLaw line)
    (h' : LineLaw { line with
      priceCents := price, addOnTotalCents := addOnTotal, unitPriceCents := unitPrice
      lineTotalCents := lineTotal }) :
    { line with
      priceCents := price, addOnTotalCents := addOnTotal, unitPriceCents := unitPrice
      lineTotalCents := lineTotal } = line := by
  have hunit : unitPrice = line.unitPriceCents := h'.unit.trans h.unit.symm
  have hprice : price = line.priceCents := h'.price.trans (hunit.trans h.price.symm)
  have haddOns : addOnTotal = line.addOnTotalCents := h'.addOns.trans h.addOns.symm
  have htotal : lineTotal = line.lineTotalCents := by
    rw [h.total, ← hunit]
    exact h'.total
  rw [hunit, hprice, haddOns, htotal]

-- No other add-on of the line goes by a name that contains this one's.
def Distinct (text : Text) (addon : SelectedAddOn) (line : Line) : Prop :=
  ∀ addOn ∈ line.addOns,
    contains (text.lower addOn.name) (text.strip (text.lower addon.name)) = false

theorem contains_own_name :
    contains (text.lower addon.name) (text.strip (text.lower addon.name)) = true := by
  simpa [contains] using text.strip_infix (text.lower addon.name)

theorem carries_eq_false (h : Distinct text addon line) : carries text addon line = false := by
  unfold carries
  rw [List.any_eq_false]
  intro addOn hmem hname
  have hother := h addOn hmem
  rw [of_decide_eq_true hname, contains_own_name] at hother
  cases hother

theorem remainingAddOns_added (h : Distinct text addon line) :
    remainingAddOns text addon.name (reprice line (line.addOns ++ [addon])) = line.addOns := by
  have hkept : line.addOns.filter (fun addOn =>
      !contains (text.lower addOn.name) (text.strip (text.lower addon.name))) = line.addOns :=
    List.filter_eq_self.mpr fun addOn hmem => by simp [h addOn hmem]
  have hadded : remainingAddOns text addon.name (reprice line (line.addOns ++ [addon])) =
      (line.addOns ++ [addon]).filter fun addOn =>
        !contains (text.lower addOn.name) (text.strip (text.lower addon.name)) := rfl
  rw [hadded, List.filter_append, hkept]
  simp [contains_own_name]

theorem dropAddon_putAddon (h : LineLaw line) (hdistinct : Distinct text addon line)
    (hadd : Repriceable line (line.addOns ++ [addon]))
    (hremove : Repriceable (reprice line (line.addOns ++ [addon])) line.addOns) :
    dropAddon text addon.name (putAddon text addon line) = line := by
  have hput : putAddon text addon line = reprice line (line.addOns ++ [addon]) := by
    simp [putAddon, carries_eq_false hdistinct]
  have hlonger : line.addOns.length ≠ (reprice line (line.addOns ++ [addon])).addOns.length := by
    simp [reprice]
  have hlaw := (reprice_law_iff ((reprice_law_iff h).mpr hadd)).mpr hremove
  rw [hput, dropAddon]
  simp only [remainingAddOns_added hdistinct, if_neg hlonger]
  exact h.prices_determined hlaw

theorem removeAddon_addAddon (h : Lawful cart)
    (hdistinct : ∀ line, cart.find? (names text itemName) = some line → Distinct text addon line)
    (hadd : Sound text cart (.addAddon itemName addon))
    (hremove : Sound text (apply text cart (.addAddon itemName addon))
      (.removeAddon itemName addon.name)) :
    apply text (apply text cart (.addAddon itemName addon)) (.removeAddon itemName addon.name) =
      cart := by
  show updateFirst (names text itemName) (dropAddon text addon.name)
    (updateFirst (names text itemName) (putAddon text addon) cart) = cart
  rw [updateFirst_updateFirst fun line => names_putAddon]
  refine updateFirst_eq_self fun line hline => ?_
  have hlaw := h line (List.mem_of_find?_eq_some hline)
  have hcarries := carries_eq_false (hdistinct line hline)
  have hput : putAddon text addon line = reprice line (line.addOns ++ [addon]) := by
    simp [putAddon, hcarries]
  have hfound : (apply text cart (.addAddon itemName addon)).find? (names text itemName) =
      some (reprice line (line.addOns ++ [addon])) := by
    rw [← hput]
    exact (find?_updateFirst fun line => names_putAddon).trans (by rw [hline]; rfl)
  have hrepriceable := hremove _ hfound
  rw [remainingAddOns_added (hdistinct line hline)] at hrepriceable
  exact dropAddon_putAddon hlaw (hdistinct line hline) (hadd line hline hcarries)
    (hrepriceable (by simp [reprice]))

theorem cart_priced_iff (hrun : Run.Along (Next text) [] steps) :
    (Run.Along (fun _ _ cart => Lawful cart) [] steps ↔
      Run.Along (fun cart edit _ => Sound text cart edit) [] steps) ∧
    (Run.Along (fun cart edit _ => Sound text cart edit) [] steps →
      ∀ (itemName : String) (addon : SelectedAddOn),
        (∀ line, (Run.last [] steps).find? (names text itemName) = some line →
          Distinct text addon line) →
        Sound text (Run.last [] steps) (.addAddon itemName addon) →
        Sound text (apply text (Run.last [] steps) (.addAddon itemName addon))
          (.removeAddon itemName addon.name) →
        apply text (apply text (Run.last [] steps) (.addAddon itemName addon))
          (.removeAddon itemName addon.name) = Run.last [] steps) := by
  have hempty : Lawful [] := by simp [Lawful]
  refine ⟨lawful_run_iff hempty hrun, fun hsound itemName addon hdistinct hadd hremove => ?_⟩
  have hlawful : Lawful (Run.last [] steps) :=
    ((lawful_run_iff hempty hrun).mpr hsound).invariant hempty fun _ _ _ _ h => h
  exact removeAddon_addAddon hlawful hdistinct hadd hremove

-- Names without capitals or blanks around them.
def plainText : Text where
  lower := fun s => s
  strip := fun s => s
  words := fun s => s.splitOn " "
  strip_infix := fun _ => List.infix_rfl

def played (text : Text) : List Line → List Edit → List (Edit × List Line)
  | _, [] => []
  | cart, edit :: edits => (edit, apply text cart edit) :: played text (apply text cart edit) edits

theorem along_played {edits : List Edit} :
    Run.Along (Next text) cart (played text cart edits) := by
  induction edits generalizing cart with
  | nil => trivial
  | cons edit edits ih => exact ⟨rfl, ih⟩

def sprinkles : SelectedAddOn := ⟨2, "sprinkles", 200, 1⟩

def freeScoop : NewItem where
  menuItemId := 1
  name := "kids scoop"
  priceCents := 0

def scoopEdits : List Edit :=
  [.add freeScoop, .addAddon "kids scoop" sprinkles, .removeAddon "kids scoop" "sprinkles"]

-- The sprinkles are gone and still charged.
def scoop : Line where
  menuItemId := 1
  name := "kids scoop"
  priceCents := 200
  basePriceCents := 0
  selectedOptions := []
  addOns := []
  optionAdjustmentCents := 0
  addOnTotalCents := 0
  unitPriceCents := 200
  quantity := 1
  lineTotalCents := 200
  options := none
  specialInstructions := none

theorem scoop_reached : Run.last [] (played plainText [] scoopEdits) = [scoop] := by
  decide +kernel

theorem free_scoop_overcharged :
    ¬ ∀ (text : Text) (edits : List Edit),
      Run.Along (fun _ _ cart => Lawful cart) [] (played text [] edits) := by
  intro h
  have hlawful : Lawful (Run.last [] (played plainText [] scoopEdits)) :=
    (h plainText scoopEdits).invariant (by simp [Lawful]) fun _ _ _ _ h => h
  rw [scoop_reached] at hlawful
  have hunit := (hlawful scoop (List.mem_singleton.mpr rfl)).unit
  exact absurd hunit (by decide)

def latte : NewItem where
  menuItemId := 3
  name := "latte"
  priceCents := 3500
  selectedOptions := [⟨"milk", "Milk", "oat", "Oat milk", 500⟩]

def shot : SelectedAddOn := ⟨4, "extra shot", 800, 2⟩

theorem latte_restored :
    Run.Along (fun _ _ cart => Lawful cart) [] (played plainText [] [.add latte]) ∧
      apply plainText (apply plainText [newLine latte] (.addAddon "latte" shot))
        (.removeAddon "latte" "extra shot") = [newLine latte] := by
  have hsound : Run.Along (fun cart edit _ => Sound plainText cart edit) []
      (played plainText [] [.add latte]) := ⟨trivial, trivial⟩
  obtain ⟨hlawful, hrestored⟩ := cart_priced_iff (@along_played plainText [] [.add latte])
  refine ⟨hlawful.mpr hsound, hrestored hsound "latte" shot ?_ ?_ ?_⟩
  · intro line hline
    obtain rfl : newLine latte = line := Option.some.inj hline
    simp [Distinct, newLine, latte]
  · intro line hline _
    obtain rfl : newLine latte = line := Option.some.inj hline
    exact .inl (by decide)
  · intro line hline _
    obtain rfl : reprice (newLine latte) [shot] = line := Option.some.inj hline
    exact .inl (by decide)

end NextgenBackend.Bot.Cart
