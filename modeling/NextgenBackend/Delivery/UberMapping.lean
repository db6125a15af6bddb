import NextgenBackend.Bot.LlmParser
import NextgenBackend.Core.Pagination
import NextgenBackend.Library.Fallible
import NextgenBackend.Library.Json.Conversions

namespace NextgenBackend.UberMapping

open Bot.Llm (PyError)
open Json Fallible Pagination

abbrev Entries := List (List ℕ × Value)

-- What the running interpreter allows a text and an integer, and what it knows of moments; the
-- errors that a moment raises are caught.
structure Platform where
  printable : ℕ → Bool
  depth : ℕ
  digits : ℕ
  fromtimestamp : Json.Number → Option DateTime
  fromisoformat : List ℕ → Option DateTime

structure Modifier where
  externalId : Option (List ℕ)
  title : List ℕ
  quantity : ℤ
  priceCents : Option ℤ

structure Line where
  externalItemId : Option (List ℕ)
  title : List ℕ
  quantity : ℤ
  unitPriceCents : Option ℤ
  modifiers : List Modifier
  specialInstructions : Value

structure Order where
  provider : String := "UBER_EATS"
  externalOrderId : List ℕ
  externalStoreId : List ℕ
  lines : List Line
  displayId : Value
  providerStatusRaw : Value
  orderType : Value
  placedAt : Option DateTime
  readyForPickupAt : Option DateTime
  currency : String := "ZAR"
  subtotalCents : Option ℤ
  taxCents : Option ℤ
  feeCents : Option ℤ
  totalCents : Option ℤ
  cashAmountDueCents : Option ℤ
  restaurantNetCents : Option ℤ := none
  specialInstructions : Value
  customerFirstName : Value
  customerPhone : Option (List ℕ)
  deliveryAddress : Option (List ℕ) := none
  fulfillmentIssues : List (List ℕ)
  providerMetadata : List (String × Value)

section Access

def get (entries : Entries) (name : String) : Value :=
  (entries.lookup (pointsOf name.toList)).getD .null

def orElse (value default : Value) : Value := if value.truthy then value else default

-- Only an object can be asked for a field.
def fields : Value → Except PyError Entries
  | .obj entries => .ok entries
  | _ => .error .attributeError

-- What a loop goes through: the characters of a text, the keys of an object.
def elements : Value → Except PyError (List Value)
  | .str codes => .ok (codes.map fun code => .str [code])
  | .arr items => .ok items
  | .obj entries => .ok (entries.map fun entry => .str entry.1)
  | _ => .error .typeError

def objects (values : List Value) : List Entries :=
  values.filterMap fun value =>
    match value with
    | .obj entries => some entries
    | _ => none

end Access

section Parse

variable (p : Platform)

def str (value : Value) : Except PyError (List ℕ) :=
  if value.depth ≤ p.depth then .ok (value.text p.printable) else .error .recursionError

-- The digits behind the point are cut off.
def truncated (negative : Bool) (size : ℚ) : ℤ := if negative then -⌊size⌋ else ⌊size⌋

def int : Value → Except PyError ℤ
  | .bool b => .ok (if b then 1 else 0)
  | .number (.int n) => .ok n
  | .number (.float (.finite negative size)) => .ok (truncated negative size)
  | .number (.float (.infinite _)) => .error .overflowError
  | .number (.float .nan) => .error .valueError
  | .str codes => (integerText p.digits codes).elim (.error .valueError) .ok
  | _ => .error .typeError

def integer? : Value → Option ℤ
  | .number (.int n) => some n
  | .bool b => some (if b then 1 else 0)
  | _ => none

def cents : Value → Option ℤ
  | .number (.int n) => some n
  | .obj entries => integer? (get entries "amount")
  | _ => none

def parseTimestamp (value : Value) : Option DateTime :=
  if value.truthy then
    match value with
    | .number number => p.fromtimestamp number
    | .bool b => p.fromtimestamp (.int (if b then 1 else 0))
    | .str codes =>
        p.fromisoformat
          (codes.flatMap fun code => if code = 90 then pointsOf "+00:00".toList else [code])
    | _ => none
  else none

def reference (entries : Entries) : Except PyError (Option (List ℕ)) :=
  let reference := orElse (get entries "external_data") (get entries "id")
  if reference.truthy then some <$> str p reference else .ok none

def parseQuantity (entries : Entries) : Except PyError ℤ :=
  int p (orElse (get entries "quantity") (.number (.int 1)))

-- A selected item without a title is left out.
def parseSelected (selected : Entries) : Except PyError (Option Modifier) := do
  let title := orElse (get selected "title") (get selected "name")
  if title.truthy then
    let externalId ← reference p selected
    let title ← str p title
    let quantity ← parseQuantity p selected
    return some ⟨externalId, title, quantity, cents (get selected "price")⟩
  else return none

def parseGroup (group : Entries) : Except PyError (List Modifier) := do
  let selected ← elements (orElse (get group "selected_items") (.arr []))
  let found ← (objects selected).mapM (parseSelected p)
  return found.reduceOption

def parseModifiers (item : Entries) : Except PyError (List Modifier) := do
  let groups ← elements (orElse (get item "selected_modifier_groups") (.arr []))
  let found ← (objects groups).mapM (parseGroup p)
  return found.flatten

def unknownItem : Value := .str (pointsOf "Unknown item".toList)

def parseItem (item : Entries) : Except PyError Line := do
  let externalItemId ← reference p item
  let title ← str p (orElse (get item "title") unknownItem)
  let quantity ← parseQuantity p item
  let modifiers ← parseModifiers p item
  return ⟨externalItemId, title, quantity, cents (get item "price"), modifiers,
    get item "special_instructions"⟩

def parseIssue (issue : Value) : Except PyError (List ℕ) := do
  let entries ← fields issue
  str p (orElse (orElse (get entries "type") (get entries "description")) issue)

def customerPhone (eater : Entries) : Except PyError (Option (List ℕ)) :=
  let code := get eater "phone_code"
  let phone := get eater "phone"
  if phone.truthy then do
    let prefixed ← if code.truthy then str p code else .ok []
    let number ← str p phone
    return some (prefixed ++ number)
  else .ok none

def metadataAllowList : List String := ["brand", "type", "current_state"]

def isNull : Value → Bool
  | .null => true
  | _ => false

def providerMetadata (raw : Entries) : List (String × Value) :=
  (metadataAllowList.map fun name => (name, get raw name)).filter fun entry => !isNull entry.2

def parseOrderDetails (raw : Entries) (externalStoreId : List ℕ) : Except PyError Order := do
  let payment ← fields (orElse (get raw "payment") (.obj []))
  let charges := orElse (get payment "charges") (.obj [])
  let cart ← fields (orElse (get raw "cart") (.obj []))
  let items ← elements (orElse (get cart "items") (.arr []))
  let lines ← (objects items).mapM (parseItem p)
  let issues ← elements (orElse (get cart "fulfillment_issues") (.arr []))
  let fulfillmentIssues ← (issues.filter Value.truthy).mapM (parseIssue p)
  let eater ← fields (orElse (get raw "eater") (.obj []))
  let customerPhone ← customerPhone p eater
  let externalOrderId ← str p (orElse (get raw "id") (.str []))
  let charges ← fields charges
  return {
    externalOrderId := externalOrderId
    externalStoreId := externalStoreId
    lines := lines
    displayId := get raw "display_id"
    providerStatusRaw := get raw "current_state"
    orderType := get raw "type"
    placedAt := parseTimestamp p (get raw "placed_at")
    readyForPickupAt := parseTimestamp p (get raw "estimated_ready_for_pickup_at")
    subtotalCents := cents (get charges "sub_total")
    taxCents := cents (get charges "tax")
    feeCents := cents (get charges "total_fee")
    totalCents := cents (get charges "total")
    cashAmountDueCents := cents (get charges "cash_amount_due")
    specialInstructions := get cart "special_instructions"
    customerFirstName := get eater "first_name"
    customerPhone := customerPhone
    fulfillmentIssues := fulfillmentIssues
    providerMetadata := providerMetadata raw }

end Parse

section Conserved

variable (p : Platform)

def fieldsOf : Value → Entries
  | .obj entries => entries
  | _ => []

def elementsOf (value : Value) : List Value := (elements value).toOption.getD []

def cartEntries (raw : Entries) : List Entries :=
  objects (elementsOf (get (fieldsOf (get raw "cart")) "items"))

def selectedItems (item : Entries) : List Entries :=
  (objects (elementsOf (get item "selected_modifier_groups"))).flatMap fun group =>
    objects (elementsOf (get group "selected_items"))

structure ShowsModifier (selected : Entries) (modifier : Modifier) : Prop where
  externalId : reference p selected = .ok modifier.externalId
  title : ∀ title, title = orElse (get selected "title") (get selected "name") →
    title.truthy = true → str p title = .ok modifier.title
  quantity : 1 ≤ modifier.quantity

structure ShowsLine (item : Entries) (line : Line) : Prop where
  externalItemId : reference p item = .ok line.externalItemId
  title : str p (orElse (get item "title") unknownItem) = .ok line.title
  quantity : 1 ≤ line.quantity
  modifiers : List.Forall₂ (ShowsModifier p) (selectedItems item) line.modifiers

-- Every entry of the cart that is an object is one line, and every such modifier one modifier of
-- it.
def Conserved (raw : Entries) (order : Order) : Prop :=
  List.Forall₂ (ShowsLine p) (cartEntries raw) order.lines

-- Absent, or something that can be asked for a field.
def Asked : Value → Prop
  | .obj _ => True
  | value => value.truthy = false

-- Absent, or something that a loop can go through.
def Looped : Value → Prop
  | .str _ | .arr _ | .obj _ => True
  | value => value.truthy = false

-- Absent, or something that is read as a whole number above zero.
def Countable : Value → Prop
  | .number (.int n) => 0 ≤ n
  | .number (.float (.finite negative size)) => size = 0 ∨ 1 ≤ truncated negative size
  | .number (.float _) => False
  | .str codes => codes = [] ∨ ∃ n ∈ integerText p.digits codes, 1 ≤ n
  | .arr items => items = []
  | .obj entries => entries = []
  | _ => True

def Shallow (value : Value) : Prop := value.depth ≤ p.depth

structure GoodEntry (entries : Entries) : Prop where
  reference : (orElse (get entries "external_data") (get entries "id")).truthy = true →
    Shallow p (orElse (get entries "external_data") (get entries "id"))
  quantity : Countable p (get entries "quantity")

structure GoodSelected (selected : Entries) : Prop extends GoodEntry p selected where
  titled : (orElse (get selected "title") (get selected "name")).truthy = true
  title : Shallow p (orElse (get selected "title") (get selected "name"))

structure GoodItem (item : Entries) : Prop extends GoodEntry p item where
  title : Shallow p (orElse (get item "title") unknownItem)
  groups : Looped (get item "selected_modifier_groups")
  selected : ∀ group ∈ objects (elementsOf (get item "selected_modifier_groups")),
    Looped (get group "selected_items")
  modifiers : ∀ selected ∈ selectedItems item, GoodSelected p selected

structure GoodIssue (issue : Value) : Prop where
  asked : ∃ entries, issue = .obj entries
  text : Shallow p (orElse (orElse (get (fieldsOf issue) "type")
    (get (fieldsOf issue) "description")) issue)

structure GoodPhone (eater : Entries) : Prop where
  phone : Shallow p (get eater "phone")
  code : (get eater "phone_code").truthy = true → Shallow p (get eater "phone_code")

structure GoodDetails (raw : Entries) : Prop where
  payment : Asked (get raw "payment")
  charges : Asked (get (fieldsOf (get raw "payment")) "charges")
  cart : Asked (get raw "cart")
  items : Looped (get (fieldsOf (get raw "cart")) "items")
  entries : ∀ item ∈ cartEntries raw, GoodItem p item
  issues : Looped (get (fieldsOf (get raw "cart")) "fulfillment_issues")
  issue : ∀ issue ∈ elementsOf (get (fieldsOf (get raw "cart")) "fulfillment_issues"),
    issue.truthy = true → GoodIssue p issue
  eater : Asked (get raw "eater")
  phone : (get (fieldsOf (get raw "eater")) "phone").truthy = true →
    GoodPhone p (fieldsOf (get raw "eater"))
  id : (get raw "id").truthy = true → Shallow p (get raw "id")

end Conserved

section Exact

variable {p : Platform} {value : Value} {entries raw item selected group eater : Entries}

theorem orElse_falsy {default : Value} (h : value.truthy = false) :
    orElse value default = default := by
  rw [orElse, h]
  rfl

theorem orElse_truthy {default : Value} (h : value.truthy = true) : orElse value default = value :=
  if_pos h

theorem gives_fields {Q : Entries → Prop} :
    Gives (fields (orElse value (.obj []))) Q ↔ Asked value ∧ Q (fieldsOf value) := by
  cases ht : value.truthy with
  | false =>
      rw [orElse_falsy ht]
      cases value with
      | obj entries =>
          have hnil : entries = [] := by simpa [Value.truthy] using ht
          simp [fields, Asked, fieldsOf, hnil]
      | _ => simp [fields, Asked, fieldsOf, ht]
  | true =>
      rw [orElse_truthy ht]
      cases value with
      | obj entries => simp [fields, Asked, fieldsOf]
      | _ => simp [fields, Asked, ht]

theorem gives_elements {Q : List Value → Prop} :
    Gives (elements (orElse value (.arr []))) Q ↔ Looped value ∧ Q (elementsOf value) := by
  cases ht : value.truthy with
  | false =>
      rw [orElse_falsy ht]
      cases value with
      | str codes =>
          have hnil : codes = [] := by simpa [Value.truthy] using ht
          simp [elements, Looped, elementsOf, Except.toOption, hnil]
      | arr items =>
          have hnil : items = [] := by simpa [Value.truthy] using ht
          simp [elements, Looped, elementsOf, Except.toOption, hnil]
      | obj entries =>
          have hnil : entries = [] := by simpa [Value.truthy] using ht
          simp [elements, Looped, elementsOf, Except.toOption, hnil]
      | _ => simp [elements, Looped, elementsOf, Except.toOption, ht]
  | true =>
      rw [orElse_truthy ht]
      cases value with
      | str codes => simp [elements, Looped, elementsOf, Except.toOption]
      | arr items => simp [elements, Looped, elementsOf, Except.toOption]
      | obj entries => simp [elements, Looped, elementsOf, Except.toOption]
      | _ => simp [elements, Looped, ht]

theorem gives_str {Q : List ℕ → Prop} :
    Gives (str p value) Q ↔ Shallow p value ∧ Q (value.text p.printable) := by
  rw [str, gives_guard, gives_ok]
  rfl

theorem str_eq (h : Shallow p value) : str p value = .ok (value.text p.printable) := if_pos h

theorem countable_of_falsy (h : value.truthy = false) : Countable p value := by
  cases value with
  | null => trivial
  | bool b => trivial
  | number number =>
      cases number with
      | int n =>
          have hzero : n = 0 := by simpa [Value.truthy] using h
          simp [Countable, hzero]
      | float x =>
          cases x with
          | finite negative size =>
              have hzero : size = 0 := by simpa [Value.truthy] using h
              exact .inl hzero
          | infinite negative => cases h
          | nan => cases h
  | str codes => exact .inl (by simpa [Value.truthy] using h)
  | arr items => simpa [Countable, Value.truthy] using h
  | obj entries => simpa [Countable, Value.truthy] using h

theorem gives_int (h : value.truthy = true) : Gives (int p value) (1 ≤ ·) ↔ Countable p value := by
  cases value with
  | null => cases h
  | bool b =>
      have hb : b = true := h
      simp [int, Countable, hb]
  | number number =>
      cases number with
      | int n =>
          have hne : n ≠ 0 := by simpa [Value.truthy] using h
          simp only [int, gives_ok, Countable]
          omega
      | float x =>
          cases x with
          | finite negative size =>
              have hne : size ≠ 0 := by simpa [Value.truthy] using h
              simp [int, Countable, hne]
          | infinite negative => simp [int, Countable]
          | nan => simp [int, Countable]
  | str codes =>
      have hne : codes ≠ [] := by simpa [Value.truthy] using h
      simp [int, Countable, hne]
  | arr items => simpa [int, Countable, Value.truthy] using h
  | obj entries => simpa [int, Countable, Value.truthy] using h

theorem gives_quantity :
    Gives (parseQuantity p entries) (1 ≤ ·) ↔ Countable p (get entries "quantity") := by
  unfold parseQuantity
  generalize get entries "quantity" = value
  cases ht : value.truthy with
  | false =>
      rw [orElse_falsy ht]
      exact iff_of_true (gives_ok.mpr (le_refl _)) (countable_of_falsy ht)
  | true =>
      rw [orElse_truthy ht]
      exact gives_int ht

theorem gives_reference : Succeeds (reference p entries) ↔
    ((orElse (get entries "external_data") (get entries "id")).truthy = true →
      Shallow p (orElse (get entries "external_data") (get entries "id"))) := by
  unfold reference
  dsimp only
  split
  next h => simp [gives_str, h]
  next h => simp [h]

theorem gives_selected :
    Gives (parseSelected p selected) (fun found => ∃ m, found = some m ∧ ShowsModifier p selected m) ↔
      GoodSelected p selected := by
  unfold parseSelected
  dsimp only
  split
  next ht =>
    simp only [gives_bind, gives_pure]
    constructor
    · rintro ⟨externalId, hreference, title, htitle, quantity, hquantity, m, hm, hshows⟩
      obtain rfl := Option.some.inj hm
      exact ⟨⟨gives_reference.mp ⟨externalId, hreference, trivial⟩,
        gives_quantity.mp ⟨quantity, hquantity, hshows.quantity⟩⟩, ht,
        (gives_str (Q := fun _ => True)).mp ⟨title, htitle, trivial⟩ |>.1⟩
    · intro hgood
      obtain ⟨externalId, hreference, -⟩ := gives_reference.mpr hgood.reference
      obtain ⟨quantity, hquantity, hle⟩ := gives_quantity.mpr hgood.quantity
      refine ⟨externalId, hreference, _, str_eq hgood.title, quantity, hquantity, _, rfl, hreference,
        ?_, hle⟩
      rintro title rfl -
      exact str_eq hgood.title
  next ht =>
    have hnot : ¬ GoodSelected p selected := fun hgood => ht hgood.titled
    simp [hnot]

-- What is shown of a selected item, if anything.
def shown (p : Platform) (selected : Entries) : Option Modifier :=
  (parseSelected p selected).toOption.join

theorem succeeds_group : Succeeds (parseGroup p group) ↔
    Looped (get group "selected_items") ∧
      ∀ selected ∈ objects (elementsOf (get group "selected_items")),
        Succeeds (parseSelected p selected) := by
  unfold parseGroup
  simp only [gives_bind, gives_pure, gives_elements, gives_mapM, and_true]

theorem toOption_group (h : Succeeds (parseGroup p group)) :
    (parseGroup p group).toOption =
      some ((objects (elementsOf (get group "selected_items"))).filterMap (shown p)) := by
  have hvalue : Gives (parseGroup p group) fun modifiers =>
      modifiers = (objects (elementsOf (get group "selected_items"))).filterMap (shown p) := by
    obtain ⟨hlooped, hall⟩ := succeeds_group.mp h
    unfold parseGroup
    simp only [gives_bind, gives_pure, gives_elements, gives_mapM]
    refine ⟨hlooped, hall, ?_⟩
    rw [List.reduceOption, List.filterMap_filterMap]
    refine List.filterMap_congr fun selected _ => ?_
    unfold shown
    cases (parseSelected p selected).toOption <;> rfl
  obtain ⟨modifiers, hgroup, rfl⟩ := hvalue
  rw [hgroup]
  rfl

theorem forall₂_filterMap_iff {α β : Type} {R : α → β → Prop} {f : α → Option β} {xs : List α} :
    List.Forall₂ R xs (xs.filterMap f) ↔ ∀ a ∈ xs, ∃ b, f a = some b ∧ R a b := by
  induction xs with
  | nil => simp
  | cons a xs ih =>
      rw [List.forall_mem_cons, ← ih]
      cases hf : f a with
      | some b => simp [hf]
      | none =>
          simp only [List.filterMap_cons, hf, reduceCtorEq, false_and, exists_false, false_and,
            iff_false]
          intro hall
          have hlength := hall.length_eq
          have hle := List.length_filterMap_le f xs
          rw [List.length_cons] at hlength
          omega

theorem gives_modifiers :
    Gives (parseModifiers p item) (List.Forall₂ (ShowsModifier p) (selectedItems item)) ↔
      Looped (get item "selected_modifier_groups") ∧
        (∀ group ∈ objects (elementsOf (get item "selected_modifier_groups")),
          Looped (get group "selected_items")) ∧
        ∀ selected ∈ selectedItems item, GoodSelected p selected := by
  unfold parseModifiers
  simp only [gives_bind, gives_pure, gives_elements, gives_mapM]
  have hflat (h : ∀ group ∈ objects (elementsOf (get item "selected_modifier_groups")),
      Succeeds (parseGroup p group)) :
      ((objects (elementsOf (get item "selected_modifier_groups"))).filterMap fun group =>
        (parseGroup p group).toOption).flatten = (selectedItems item).filterMap (shown p) := by
    have hgroups : ((objects (elementsOf (get item "selected_modifier_groups"))).filterMap
        fun group => (parseGroup p group).toOption) =
        (objects (elementsOf (get item "selected_modifier_groups"))).map fun group =>
          (objects (elementsOf (get group "selected_items"))).filterMap (shown p) := by
      rw [← List.filterMap_eq_map]
      exact List.filterMap_congr fun group hgroup => toOption_group (h group hgroup)
    rw [hgroups, selectedItems, List.filterMap_flatMap]
    rfl
  have hshown (selected : Entries) : (∃ m, shown p selected = some m ∧ ShowsModifier p selected m) ↔
      GoodSelected p selected := by
    rw [← gives_selected, shown]
    cases parseSelected p selected with
    | error e => simp [Except.toOption]
    | ok found => cases found <;> simp [Except.toOption]
  constructor
  · rintro ⟨hlooped, hall, hpairs⟩
    rw [hflat hall, forall₂_filterMap_iff] at hpairs
    exact ⟨hlooped, fun group hgroup => (succeeds_group.mp (hall group hgroup)).1,
      fun selected hselected => (hshown selected).mp (hpairs selected hselected)⟩
  · rintro ⟨hlooped, hgroups, hgood⟩
    have hall : ∀ group ∈ objects (elementsOf (get item "selected_modifier_groups")),
        Succeeds (parseGroup p group) := by
      refine fun group hgroup => succeeds_group.mpr ⟨hgroups group hgroup, fun selected hselected => ?_⟩
      have hmem : selected ∈ selectedItems item := List.mem_flatMap.mpr ⟨group, hgroup, hselected⟩
      exact (gives_selected.mpr (hgood selected hmem)).mono fun _ _ => trivial
    refine ⟨hlooped, hall, ?_⟩
    rw [hflat hall, forall₂_filterMap_iff]
    exact fun selected hselected => (hshown selected).mpr (hgood selected hselected)

theorem gives_item : Gives (parseItem p item) (ShowsLine p item) ↔ GoodItem p item := by
  unfold parseItem
  simp only [gives_bind, gives_pure]
  constructor
  · rintro ⟨externalId, hreference, title, htitle, quantity, hquantity, modifiers, hmodifiers, hshows⟩
    obtain ⟨hgroups, hselected, hgood⟩ := gives_modifiers.mp ⟨modifiers, hmodifiers, hshows.modifiers⟩
    exact ⟨⟨gives_reference.mp ⟨externalId, hreference, trivial⟩,
      gives_quantity.mp ⟨quantity, hquantity, hshows.quantity⟩⟩,
      ((gives_str (Q := fun _ => True)).mp ⟨title, htitle, trivial⟩).1, hgroups, hselected, hgood⟩
  · intro hgood
    obtain ⟨externalId, hreference, -⟩ := gives_reference.mpr hgood.reference
    obtain ⟨quantity, hquantity, hle⟩ := gives_quantity.mpr hgood.quantity
    obtain ⟨modifiers, hmodifiers, hpairs⟩ :=
      gives_modifiers.mpr ⟨hgood.groups, hgood.selected, hgood.modifiers⟩
    exact ⟨externalId, hreference, _, str_eq hgood.title, quantity, hquantity, modifiers, hmodifiers,
      hreference, str_eq hgood.title, hle, hpairs⟩

theorem gives_issue {issue : Value} : Succeeds (parseIssue p issue) ↔ GoodIssue p issue := by
  unfold parseIssue
  simp only [gives_bind]
  cases issue with
  | obj entries =>
      simp only [fields, gives_ok, gives_str, and_true]
      exact ⟨fun h => ⟨⟨entries, rfl⟩, h⟩, fun h => h.text⟩
  | _ =>
      simp only [fields, gives_error, false_iff]
      rintro ⟨⟨entries, hentries⟩, -⟩
      cases hentries

theorem gives_phone : Succeeds (customerPhone p eater) ↔
    ((get eater "phone").truthy = true → GoodPhone p eater) := by
  unfold customerPhone
  dsimp only
  cases hphone : (get eater "phone").truthy with
  | false => simp
  | true =>
      cases hcode : (get eater "phone_code").truthy with
      | false =>
          simp only [if_true, Bool.false_eq_true, if_false, gives_bind, gives_pure, gives_ok,
            gives_str, and_true, true_imp_iff]
          exact ⟨fun h => ⟨h, fun htruthy => absurd (hcode.symm.trans htruthy) (by decide)⟩,
            fun h => h.phone⟩
      | true =>
          simp only [if_true, gives_bind, gives_pure, gives_str, and_true, true_imp_iff]
          exact ⟨fun h => ⟨h.2, fun _ => h.1⟩, fun h => ⟨h.code hcode, h.phone⟩⟩

theorem gives_id : Succeeds (str p (orElse (get raw "id") (.str []))) ↔
    ((get raw "id").truthy = true → Shallow p (get raw "id")) := by
  refine (gives_str (Q := fun _ => True)).trans ?_
  cases h : (get raw "id").truthy with
  | false => simp [orElse_falsy h, Shallow, Value.depth]
  | true => simp [orElse_truthy h]

theorem gives_issues {issues : List Value} :
    Succeeds ((issues.filter Value.truthy).mapM (parseIssue p)) ↔
      ∀ issue ∈ issues, issue.truthy = true → GoodIssue p issue := by
  refine gives_mapM.trans ?_
  simp only [and_true, List.mem_filter, and_imp, gives_issue]

theorem details_conserved_iff (p : Platform) (raw : Entries) (externalStoreId : List ℕ) :
    (∃ order, parseOrderDetails p raw externalStoreId = .ok order ∧ Conserved p raw order) ↔
      GoodDetails p raw := by
  change Gives (parseOrderDetails p raw externalStoreId) (Conserved p raw) ↔ _
  unfold parseOrderDetails
  simp only [gives_bind, gives_pure, gives_fields, gives_elements]
  constructor
  · rintro ⟨hpayment, hcart, hitems, lines, hlines, hissues, issues, hparsed, heater, phone, hphone,
      id, hid, hcharges, hconserved⟩
    exact ⟨hpayment, hcharges, hcart, hitems,
      fun item hitem => gives_item.mp (gives_mapM_forall₂.mp ⟨lines, hlines, hconserved⟩ item hitem),
      hissues, gives_issues.mp ⟨issues, hparsed, trivial⟩, heater,
      gives_phone.mp ⟨phone, hphone, trivial⟩, gives_id.mp ⟨id, hid, trivial⟩⟩
  · intro hgood
    obtain ⟨lines, hlines, hconserved⟩ :=
      gives_mapM_forall₂.mpr fun item hitem => gives_item.mpr (hgood.entries item hitem)
    obtain ⟨issues, hparsed, -⟩ := gives_issues.mpr hgood.issue
    obtain ⟨phone, hphone, -⟩ := gives_phone.mpr hgood.phone
    obtain ⟨id, hid, -⟩ := gives_id.mpr hgood.id
    exact ⟨hgood.payment, hgood.cart, hgood.items, lines, hlines, hgood.issues, issues, hparsed,
      hgood.eater, phone, hphone, id, hid, hgood.charges, hconserved⟩

-- A cart whose one item is asked for in words.
def wordQuantity : Entries :=
  [(pointsOf "cart".toList, .obj [(pointsOf "items".toList, .arr [.obj
    [(pointsOf "title".toList, .str (pointsOf "Burger".toList)),
      (pointsOf "quantity".toList, .str (pointsOf "two".toList))]])])]

theorem word_quantity_crashes :
    ¬ ∀ (p : Platform) (raw : Entries) (externalStoreId : List ℕ),
      ∃ order, parseOrderDetails p raw externalStoreId = .ok order ∧ Conserved p raw order := by
  intro h
  obtain ⟨order, horder, -⟩ :=
    h ⟨fun _ => true, 100, 100, fun _ => none, fun _ => none⟩ wordQuantity []
  cases horder

end Exact

end NextgenBackend.UberMapping
