import NextgenBackend.Bot.ExtractedSpans
import NextgenBackend.Bot.VariantAllocation

namespace NextgenBackend.Bot.Extraction

open Pattern
open Cart (Line NewItem)
open Allocation (addAll units ordered)
open Llm (PyError Platform menuMatch safeQuantity)

section Folds

variable (letters : Letters)

-- An item that is folded into another one's choice is noted on what is kept of that one.
def FoldRecorded (matched : List Match) : Prop :=
  ∀ m ∈ matched, ∀ other, host letters matched m = some other →
    ∃ e ∈ foldOptions letters matched, e.item.id = other.item.id ∧ m.item.name ∈ e.notes

-- The item that takes it up comes earlier and is not folded itself.
def Hosted (matched : List Match) : Prop :=
  ∀ i m, matched[i]? = some m → ∀ other, host letters matched m = some other →
    ∃ e ∈ matched.take i, e.item.id = other.item.id ∧ host letters matched e = none

theorem hosted_iff {matched : List Match} : Hosted letters matched ↔
    ∀ i : Fin matched.length, ∀ other ∈ host letters matched matched[i],
      ∃ e ∈ matched.take i, e.item.id = other.item.id ∧ (host letters matched e).isNone := by
  unfold Hosted
  simp only [Option.isNone_iff_eq_none]
  constructor
  · intro h i other hother
    exact h i matched[i] (List.getElem?_eq_getElem i.isLt) other hother
  · intro h i m hi other hother
    obtain ⟨hlt, rfl⟩ := List.getElem?_eq_some_iff.mp hi
    exact h ⟨i, hlt⟩ other hother

instance {matched : List Match} : Decidable (Hosted letters matched) :=
  decidable_of_iff _ (hosted_iff letters).symm

end Folds

section FoldRuns

variable {letters : Letters} {matched before kept : List Match} {m e : Match} {id : Uuid}
  {name : String}

theorem kept_iff : (∃ e ∈ before.foldl (foldMatch letters matched) [], e.item.id = id) ↔
    ∃ e ∈ before, e.item.id = id ∧ host letters matched e = none := by
  induction before using List.reverseRecOn with
  | nil => simp
  | append_singleton before m ih =>
      rw [List.foldl_append, List.foldl_cons, List.foldl_nil]
      cases hhost : host letters matched m with
      | none =>
          simp only [foldMatch, hhost, List.mem_append, List.mem_singleton, or_and_right,
            exists_or, ih, exists_eq_left, and_true]
      | some other =>
          have hsame : (∃ e ∈ foldMatch letters matched
                (before.foldl (foldMatch letters matched) []) m, e.item.id = id) ↔
              ∃ e ∈ before.foldl (foldMatch letters matched) [], e.item.id = id := by
            simp only [foldMatch, hhost]
            split
            next => exact Iff.rfl
            next i _ =>
              have hmap : ((before.foldl (foldMatch letters matched) []).modify i
                    (Match.note m.item.name)).map (fun e => e.item.id) =
                  (before.foldl (foldMatch letters matched) []).map fun e => e.item.id := by
                simpa [List.map_map, Function.comp_def, Match.bare] using
                  congrArg (List.map fun e : Match => e.item.id) bare_modify
              simpa using congrArg (id ∈ ·) hmap
          rw [hsame, ih]
          simp [hhost]

theorem noted_modify {i : Nat} {note : String} (h : kept[i]? = some e) :
    (∃ e ∈ kept.modify i (Match.note note), e.item.id = id ∧ name ∈ e.notes) ↔
      (∃ e ∈ kept, e.item.id = id ∧ name ∈ e.notes) ∨ (e.item.id = id ∧ note = name) := by
  obtain ⟨hi, rfl⟩ := List.getElem?_eq_some_iff.mp h
  have hkept : kept = kept.take i ++ kept[i] :: kept.drop (i + 1) := by simp
  rw [List.modify_eq_take_cons_drop hi]
  constructor
  · rintro ⟨e, he, hid, hname⟩
    rcases List.mem_append.mp he with he | he
    · exact .inl ⟨e, List.mem_of_mem_take he, hid, hname⟩
    · rcases List.mem_cons.mp he with rfl | he
      · rcases List.mem_append.mp hname with hname | hname
        · exact .inl ⟨_, List.getElem_mem hi, hid, hname⟩
        · exact .inr ⟨hid, (List.mem_singleton.mp hname).symm⟩
      · exact .inl ⟨e, List.mem_of_mem_drop he, hid, hname⟩
  · rintro (⟨e, he, hid, hname⟩ | ⟨hid, rfl⟩)
    · rw [hkept] at he
      rcases List.mem_append.mp he with he | he
      · exact ⟨e, List.mem_append_left _ he, hid, hname⟩
      · rcases List.mem_cons.mp he with rfl | he
        · exact ⟨_, List.mem_append_right _ List.mem_cons_self, hid,
            List.mem_append_left _ hname⟩
        · exact ⟨e, List.mem_append_right _ (List.mem_cons_of_mem _ he), hid, hname⟩
    · exact ⟨_, List.mem_append_right _ List.mem_cons_self, hid,
        List.mem_append_right _ (List.mem_singleton_self _)⟩

-- A match is folded after one that is kept and has the identity its host has.
def NotedAt (letters : Letters) (matched before : List Match) (id : Uuid) (name : String) : Prop :=
  ∃ i m other, before[i]? = some m ∧ host letters matched m = some other ∧ other.item.id = id ∧
    m.item.name = name ∧ ∃ e ∈ before.take i, e.item.id = id ∧ host letters matched e = none

theorem notedAt_snoc : NotedAt letters matched (before ++ [m]) id name ↔
    NotedAt letters matched before id name ∨
      ∃ other, host letters matched m = some other ∧ other.item.id = id ∧ m.item.name = name ∧
        ∃ e ∈ before, e.item.id = id ∧ host letters matched e = none := by
  constructor
  · rintro ⟨i, m', other, hi, hrest⟩
    by_cases hlt : i < before.length
    · rw [List.getElem?_append_left hlt] at hi
      rw [List.take_append_of_le_length hlt.le] at hrest
      exact .inl ⟨i, m', other, hi, hrest⟩
    · rw [List.getElem?_append_right (by omega)] at hi
      obtain ⟨hzero, hm⟩ := List.getElem?_eq_some_iff.mp hi
      have hat : i = before.length := by simp at hzero; omega
      subst hat
      simp only [Nat.sub_self, List.getElem_cons_zero] at hm
      subst hm
      rw [List.take_append_of_le_length le_rfl, List.take_length] at hrest
      exact .inr ⟨other, hrest⟩
  · rintro (⟨i, m', other, hi, hrest⟩ | ⟨other, hrest⟩)
    · have hlt := (List.getElem?_eq_some_iff.mp hi).1
      refine ⟨i, m', other, ?_, ?_⟩
      · rwa [List.getElem?_append_left hlt]
      · rwa [List.take_append_of_le_length hlt.le]
    · refine ⟨before.length, m, other, by simp, ?_⟩
      rwa [List.take_append_of_le_length le_rfl, List.take_length]

theorem noted_iff (h : ∀ m ∈ before, m.notes = []) :
    (∃ e ∈ before.foldl (foldMatch letters matched) [], e.item.id = id ∧ name ∈ e.notes) ↔
      NotedAt letters matched before id name := by
  induction before using List.reverseRecOn with
  | nil => simp [NotedAt]
  | append_singleton before m ih =>
      obtain ⟨hbefore, hm⟩ := List.forall_mem_append.mp h
      have hnil := hm m (List.mem_singleton_self m)
      rw [notedAt_snoc, ← ih hbefore, ← kept_iff, List.foldl_append, List.foldl_cons,
        List.foldl_nil]
      simp only [foldMatch]
      cases hhost : host letters matched m with
      | none => simp [or_and_right, exists_or, hnil]
      | some other =>
          simp only [Option.some.injEq, exists_eq_left']
          cases hfound : (before.foldl (foldMatch letters matched) []).findIdx?
              fun e => e.item.id = other.item.id with
          | none =>
              rw [List.findIdx?_eq_none_iff] at hfound
              refine ⟨.inl, fun h => h.resolve_right ?_⟩
              rintro ⟨rfl, -, e, he, hid⟩
              simpa [hid] using hfound e he
          | some i =>
              obtain ⟨hi, hid, -⟩ := List.findIdx?_eq_some_iff_getElem.mp hfound
              have hid := of_decide_eq_true hid
              rw [noted_modify (List.getElem?_eq_getElem hi), hid]
              refine or_congr_right (and_congr_right fun hother => ?_)
              exact (and_iff_left ⟨_, List.getElem_mem hi, hid.trans hother⟩).symm

theorem foldOptions_eq : foldOptions letters matched =
    matched.foldl (foldMatch letters matched) [] := by
  unfold foldOptions
  split
  · rfl
  · rcases matched with _ | ⟨m, _ | ⟨m', rest⟩⟩
    · rfl
    · simp [foldMatch, host]
    · simp_all

-- What is folded is recorded where every host comes first, as no two matches have one name.
theorem foldRecorded_iff (hdistinct : (matched.map fun m => nameLower letters m.item).Nodup)
    (hunnoted : ∀ m ∈ matched, m.notes = []) :
    FoldRecorded letters matched ↔ Hosted letters matched := by
  unfold FoldRecorded Hosted
  simp only [foldOptions_eq, noted_iff hunnoted]
  constructor
  · intro h i m hi other hother
    obtain ⟨j, m', other', hj, hother', hid, hname, hearlier⟩ :=
      h m (List.mem_of_getElem? hi) other hother
    have hsame : i = j := by
      have hlt : i < (matched.map fun m => nameLower letters m.item).length := by
        simpa using (List.getElem?_eq_some_iff.mp hi).1
      refine (List.getElem?_inj hlt hdistinct).mp ?_
      simp [List.getElem?_map, hi, hj, nameLower, hname]
    exact hsame ▸ hearlier
  · intro h m hm other hother
    obtain ⟨i, hi⟩ := List.mem_iff_getElem?.mp hm
    exact ⟨i, m, other, hi, hother, rfl, rfl, h i m hi other hother⟩

end FoldRuns

section Scans

variable {letters : Letters} {active menuItems : List MenuItem} {ignorePriceAmbiguity : Bool}
  {progress : Progress} {pieces : List (List Char × Nat)} {msgText : List Char}

-- The matches of a chunk have different names and nothing is noted on them yet.
structure Fresh (letters : Letters) (matched : List Match) : Prop where
  distinct : (matched.map fun m => nameLower letters m.item).Nodup
  unnoted : ∀ m ∈ matched, m.notes = []

theorem fresh_foldl (hlisted : Listed letters active progress)
    (h : ∀ matched ∈ progress.scans, Fresh letters matched) :
    ∀ matched ∈ (pieces.foldl (extractChunk letters active ignorePriceAmbiguity) progress).scans,
      Fresh letters matched := by
  induction pieces generalizing progress with
  | nil => exact h
  | cons piece pieces ih =>
      refine ih (listed_extractChunk hlisted) fun matched hmatched => ?_
      rcases List.mem_append.mp hmatched with hmatched | hmatched
      · exact h matched hmatched
      · obtain rfl := List.mem_singleton.mp hmatched
        have hscanned : Scanned letters active (chunkOf letters piece.1 piece.2) _
            (scanChunk letters active ignorePriceAmbiguity _ progress.names) := hlisted.scanned
        exact ⟨hscanned.distinct, hscanned.unnoted⟩

theorem scans_fresh :
    ∀ matched ∈ (matchMessage letters ignorePriceAmbiguity msgText menuItems).scans,
      Fresh letters matched :=
  fresh_foldl listed_start (by simp)

theorem folds_recorded_iff :
    (∀ matched ∈ (matchMessage letters ignorePriceAmbiguity msgText menuItems).scans,
        FoldRecorded letters matched) ↔
      ∀ matched ∈ (matchMessage letters ignorePriceAmbiguity msgText menuItems).scans,
        Hosted letters matched :=
  forall₂_congr fun matched hmatched =>
    foldRecorded_iff (scans_fresh matched hmatched).distinct (scans_fresh matched hmatched).unnoted

end Scans

structure Entry where
  item : MenuItem
  quantity : Int
  modifier : Option String
  options : Option (List (String × String)) := none
deriving DecidableEq

structure PendingOption where
  item : MenuItem
  quantity : Int
  specialInstructions : Option String
deriving DecidableEq

structure Recommended where
  name : String
  quantity : Option Int
  options : Option (List (String × String))
  specialInstructions : Option String
deriving DecidableEq

structure Order where
  state : ConversationState
  cart : List Line
  confirmedCart : List Line
  pendingOptions : List PendingOption
  recommendedItems : List Recommended
deriving DecidableEq

inductive Reply where
  | options (pending : PendingOption) (missing : List OptionGroup)
  | added (items : List NewItem)
  | notFound
deriving DecidableEq

def Reply.pending : Reply → List PendingOption
  | .options pending _ => [pending]
  | _ => []

-- A message that names items, one that adds some to an order under review, or an answer that
-- takes what was recommended.
inductive Message where
  | order (intent : Option MessageIntent) (normText : String)
  | addition (intent : Option MessageIntent) (msgText normText : String)
  | acceptance

-- The paid add-ons of an item, how they are read from a text and taken out of it.
structure AddOns where
  names : Uuid → List String
  read : String → MenuItem → List SelectedAddOn
  filter : Option String → List SelectedAddOn → Option String

section Options

variable (text : Cart.Text) (sortOrder : OptionGroup → Int)

def enabledOptions (group : OptionGroup) : List MenuOption := group.options.filter (·.isEnabled)

def named (search : String) (option : MenuOption) : Bool :=
  Cart.contains search (text.lower option.name)

def getMissingRequiredGroups (item : MenuItem) (modifierText fullMsg : Option String) :
    List OptionGroup :=
  let required := item.optionGroups.filter fun group => group.required && group.isEnabled
  let parts := [modifierText, fullMsg].reduceOption.filter (· ≠ "")
  let search := text.strip (" ".intercalate (parts.map text.lower))
  if search = "" then required
  else required.filter fun group => !(enabledOptions group).any (named text search)

def captureOptionsFromMessage (item : MenuItem) (normText : String) : Option String :=
  let groups := item.optionGroups.insertionSort fun g g' => sortOrder g ≤ sortOrder g'
  let found := ((groups.flatMap enabledOptions).filter (named text (text.lower normText))).map
    (·.name)
  if found = [] then none else some (", ".intercalate found.eraseDups)

def enabledNames (item : MenuItem) : List String :=
  ((item.optionGroups.filter (·.isEnabled)).flatMap enabledOptions).map fun o => text.lower o.name

def splitDistinctPerUnitModifiers (item : MenuItem) (quantity : Int) (modifier : Option String) :
    List (Int × Option String) :=
  let parts := ((modifier.getD "").splitOn ",").map text.strip
  if 1 < quantity ∧ modifier.getD "" ≠ "" ∧ parts.length = quantity ∧
      (∀ part ∈ parts, text.lower part ∈ enabledNames text item) then
    parts.map fun part => (1, some part)
  else [(quantity, modifier)]

def stems (s : String) : List String :=
  ((text.words s).filter fun w => 4 ≤ w.length).map fun w => String.ofList (w.toList.take 4)

def conflictIn (names : List String) (searchText : String) : Bool :=
  let search := text.lower searchText
  searchText ≠ "" && names.any fun name =>
    let name := text.lower name
    Cart.contains search name || Cart.contains name search ||
      (stems text name).any (stems text search).contains

def detHasAddOnConflict (addOns : AddOns) (entries : List Entry) (fullText : String) : Bool :=
  let names := entries.flatMap fun entry => addOns.names entry.item.id
  let modifier := " ".intercalate ((entries.filterMap (·.modifier)).filter (· ≠ ""))
  conflictIn text names modifier || conflictIn text names fullText

def detHasPricedOption (normText : String) (entry : Entry) : Bool :=
  entry.item.optionGroups.any fun group => group.options.any fun option =>
    option.priceDeltaCents ≠ 0 && named text (text.lower normText) option

end Options

section Placing

variable (text : Cart.Text) (sortOrder : OptionGroup → Int) (addOns : AddOns)

def line (specialInstructions : Option String) (entry : Entry) : NewItem where
  menuItemId := entry.item.id
  name := entry.item.name
  priceCents := entry.item.priceCents
  quantity := entry.quantity
  options := entry.options
  specialInstructions := specialInstructions

def withModifier (entry : Entry) : NewItem := line entry.modifier entry

def withOptions (normText : String) (entry : Entry) : NewItem :=
  line ((entry.modifier.filter (· ≠ "")).or
    (captureOptionsFromMessage text sortOrder entry.item normText)) entry

def perUnit (normText : String) (entry : Entry) : List NewItem :=
  let item := withOptions text sortOrder normText entry
  (splitDistinctPerUnitModifiers text entry.item entry.quantity item.specialInstructions).map
    fun unit => { item with quantity := unit.1, specialInstructions := unit.2 }

-- One item is looked up in the whole message, several in what each of them asks for.
def withAddOns (normText : String) (several : Bool) (entry : Entry) : NewItem :=
  let search := if several then (entry.modifier.filter (· ≠ "")).getD normText else normText
  let resolved := addOns.read search entry.item
  { line ((addOns.filter entry.modifier resolved).filter (· ≠ "")) entry with addOns := resolved }

def lockCart (order : Order) : Order :=
  { order with confirmedCart := order.cart, state := .confirmingOrder }

def Order.add (order : Order) (items : List NewItem) : Order :=
  { order with cart := addAll order.cart items }

-- The items that need no options are added; of the others the first is asked about.
def askFirst (needsOpts : Entry → Bool) (ready : Entry → NewItem) (order : Order)
    (entries : List Entry) : Option (Order × Reply) :=
  (entries.find? needsOpts).map fun entry =>
    let pending : PendingOption := ⟨entry.item, entry.quantity, entry.modifier⟩
    ({ order.add ((entries.filter fun entry => !needsOpts entry).map ready) with
        pendingOptions := [pending]
        state := .choosingOptions },
      .options pending (getMissingRequiredGroups text entry.item entry.modifier none))

def detStatesForAdd : List ConversationState := [.buildingCart, .browsingMenu, .idle]

def detEligible (state : ConversationState) (intent : Option MessageIntent) (normText : String) :
    Bool :=
  (intent = some .orderStart && state ≠ .choosingOptions) ||
    (intent = some .orderAdd && detStatesForAdd.contains state) ||
    (intent = none && (.greeting :: detStatesForAdd).contains state &&
      1 < (text.words normText).length)

def mutationSignals : Pattern := inOrder [
  .boundary,
  Detectors.anyOf [["remove"], ["take", "off"], ["take", "out"], ["delete"], ["instead", "of"],
    ["replace"], ["swap"], ["without"]],
  .boundary]

def confirmingEligible (state : ConversationState) (intent : Option MessageIntent)
    (normText : String) : Bool :=
  (intent = some .orderStart || intent = some .orderAdd) && state = .confirmingOrder &&
    (Detectors.found mutationSignals normText).isNone

def needsOpts : Message → Entry → Bool
  | .order _ normText, entry | .addition _ _ normText, entry =>
      getMissingRequiredGroups text entry.item entry.modifier (some normText) ≠ []
  | .acceptance, entry => getMissingRequiredGroups text entry.item entry.modifier none ≠ []

-- A message that takes a priced option is handed on, with nothing done.
def addReady (order : Order) (normText : String) (entries : List Entry) : Option (Order × Reply) :=
  let items :=
    if detHasAddOnConflict text addOns entries normText then
      entries.map (withAddOns addOns normText (1 < entries.length))
    else entries.flatMap (perUnit text sortOrder normText)
  if entries.any (detHasPricedOption text normText) then none
  else some (lockCart (order.add items), .added items)

def applyChunk (names : List String) (cart : List Line) (chunk : String) : List Line :=
  let target := (Detectors.detectModifierUpdate text chunk cart).bind fun update =>
    cart[update.2]?.map fun line => (line, update.1)
  if chunk = "" ∨ names.any (Cart.contains (text.lower chunk)) then cart
  else
    match target with
    | none => cart
    | some (line, modifier) => (Cart.updateCartItemInstructions text cart line.name modifier).1

def applyChunks (msgText : String) (entries : List Entry) (cart : List Line) : List Line :=
  let chunks := (pieces msgText.toList).map fun piece => text.strip (String.ofList piece.1)
  chunks.foldl (applyChunk text (entries.map fun entry => text.lower entry.item.name)) cart

def addConfirming (order : Order) (msgText normText : String) (entries : List Entry) :
    Order × Reply :=
  let items := entries.map (withOptions text sortOrder normText)
  let cart := applyChunks text msgText entries (order.add items).cart
  ({ order with cart := cart, confirmedCart := cart }, .added items)

def handleRecommendationAcceptance (order : Order) (entries : List Entry) :
    Option (Order × Reply) :=
  let order := { order with recommendedItems := [] }
  (askFirst text (needsOpts text .acceptance) withModifier order entries).or
    (if entries = [] then some (order, .notFound)
    else
      let items := entries.map withModifier
      some (lockCart (order.add items), .added items))

def place (order : Order) (message : Message) (entries : List Entry) : Option (Order × Reply) :=
  match message with
  | .order _ normText =>
      if entries = [] then none
      else (askFirst text (needsOpts text message) (withOptions text sortOrder normText) order
        entries).or (addReady text sortOrder addOns order normText entries)
  | .addition _ msgText normText =>
      if entries = [] then none
      else (askFirst text (needsOpts text message) withModifier order entries).or
        (some (addConfirming text sortOrder order msgText normText entries))
  | .acceptance => handleRecommendationAcceptance text order entries

end Placing

section Recognising

variable (letters : Letters) (p : Platform) (menuItems : List MenuItem)

def readMessage (msgText : String) : Except PyError (List Entry) :=
  (extractItemsFromMessage letters false msgText.toList menuItems).map fun entries =>
    entries.map fun entry => { item := entry.1, quantity := entry.2.1, modifier := entry.2.2 }

def readRecommended (recommended : Recommended) : Except PyError (Option Entry) :=
  (menuMatch p menuItems recommended.name recommended.name.length).map fun matched =>
    matched.map fun item =>
      { item := item
        quantity := safeQuantity ((recommended.quantity.filter (· ≠ 0)).getD 1)
        modifier := recommended.specialInstructions
        options := recommended.options }

-- The items that a message names, or those of the recommendation that it takes.
def recognised (order : Order) : Message → Except PyError (List Entry)
  | .order intent normText =>
      if detEligible p.toText order.state intent normText then readMessage letters menuItems normText
      else .ok []
  | .addition intent _ normText =>
      if confirmingEligible order.state intent normText then readMessage letters menuItems normText
      else .ok []
  | .acceptance =>
      (order.recommendedItems.mapM (readRecommended p menuItems)).map List.reduceOption

def scansOf : Message → List (List Match)
  | .order _ normText | .addition _ _ normText =>
      (matchMessage letters false normText.toList menuItems).scans
  | .acceptance => []

end Recognising

section Conservation

variable {letters : Letters} {p : Platform} {text : Cart.Text} {sortOrder : OptionGroup → Int}
  {addOns : AddOns} {menuItems : List MenuItem} {order : Order} {message : Message}
  {entries : List Entry} {entry : Entry} {needs : Entry → Bool} {ready : Entry → NewItem}
  {placed : Order × Reply} {meant : Uuid → Bool} {msgText normText : String} {cart : List Line}

def wanted (meant : Uuid → Bool) (entries : List Entry) : Int :=
  ((entries.filter fun entry => meant entry.item.id).map (·.quantity)).sum

def asked (meant : Uuid → Bool) (pending : List PendingOption) : Int :=
  ((pending.filter fun option => meant option.item.id).map (·.quantity)).sum

def itself (id : Uuid) : Uuid → Bool := fun id' => id' = id

-- Of every item what is recognised is in the cart or is asked about, and what is folded into
-- another item is noted there.
structure Conserved (letters : Letters) (scans : List (List Match)) (cart : List Line)
    (entries : List Entry) (placed : Order × Reply) : Prop where
  counted : ∀ id, units (itself id) cart + wanted (itself id) entries =
    units (itself id) placed.1.cart + asked (itself id) placed.2.pending
  held : ∀ pending ∈ placed.2.pending,
    pending ∈ placed.1.pendingOptions ∧ placed.1.state = .choosingOptions
  folded : ∀ matched ∈ scans, FoldRecorded letters matched

theorem wanted_cons : wanted meant (entry :: entries) =
    (if meant entry.item.id then entry.quantity else 0) + wanted meant entries := by
  unfold wanted
  by_cases h : meant entry.item.id
  · simp [h]
  · simp [h]

variable (needs) in
theorem wanted_filter : wanted meant entries =
    wanted meant (entries.filter needs) +
      wanted meant (entries.filter fun entry => !needs entry) := by
  induction entries with
  | nil => rfl
  | cons entry entries ih =>
      by_cases h : needs entry
      · simp only [List.filter_cons, h, ↓reduceIte, Bool.not_true, Bool.false_eq_true,
          wanted_cons, ih]
        omega
      · simp only [List.filter_cons, h, ↓reduceIte, Bool.not_false, wanted_cons, ih,
          Bool.false_eq_true]
        omega

theorem ordered_append {items items' : List NewItem} :
    ordered meant (items ++ items') = ordered meant items + ordered meant items' := by
  simp [ordered]

-- Lines that ask for what the entries ask for.
theorem ordered_flatMap {lines : Entry → List NewItem}
    (h : ∀ entry, ordered meant (lines entry) =
      if meant entry.item.id then entry.quantity else 0) :
    ordered meant (entries.flatMap lines) = wanted meant entries := by
  induction entries with
  | nil => rfl
  | cons entry entries ih => rw [List.flatMap_cons, ordered_append, h, ih, wanted_cons]

theorem ordered_map (h : ∀ entry, (ready entry).menuItemId = entry.item.id ∧
      (ready entry).quantity = entry.quantity) :
    ordered meant (entries.map ready) = wanted meant entries := by
  rw [List.map_eq_flatMap]
  refine ordered_flatMap fun entry => ?_
  rw [Allocation.ordered_cons, (h entry).1, (h entry).2]
  exact add_zero _

theorem splitDistinct_sum {item : MenuItem} {quantity : Int} {modifier : Option String} :
    ((splitDistinctPerUnitModifiers text item quantity modifier).map (·.1)).sum = quantity := by
  simp only [splitDistinctPerUnitModifiers]
  split
  next h => simpa [List.map_map, Function.comp_def] using h.2.2.1
  next => simp

theorem ordered_perUnit : ordered meant (perUnit text sortOrder normText entry) =
    if meant entry.item.id then entry.quantity else 0 := by
  have hall (item : NewItem) (parts : List (Int × Option String)) :
      ordered meant (parts.map fun unit =>
          { item with quantity := unit.1, specialInstructions := unit.2 }) =
        if meant item.menuItemId then (parts.map (·.1)).sum else 0 := by
    induction parts with
    | nil => simp [ordered]
    | cons part parts ih =>
        rw [List.map_cons, Allocation.ordered_cons, ih, List.map_cons, List.sum_cons]
        split <;> rfl
  unfold perUnit
  rw [hall, splitDistinct_sum]
  rfl

theorem units_updateFirst {q : Line → Bool} {f : Line → Line}
    (h : ∀ line, (f line).menuItemId = line.menuItemId ∧ (f line).quantity = line.quantity) :
    units meant (Cart.updateFirst q f cart) = units meant cart := by
  induction cart with
  | nil => rfl
  | cons line cart ih =>
      unfold Cart.updateFirst
      split
      · rw [Allocation.units_cons, Allocation.units_cons, (h line).1, (h line).2]
      · rw [Allocation.units_cons, Allocation.units_cons, ih]

theorem units_applyChunk {names : List String} {chunk : String} :
    units meant (applyChunk text names cart chunk) = units meant cart := by
  simp only [applyChunk]
  split
  · rfl
  · split
    · rfl
    · exact units_updateFirst fun line => ⟨rfl, rfl⟩

theorem units_applyChunks :
    units meant (applyChunks text msgText entries cart) = units meant cart := by
  have hfold (names chunks : List String) (cart : List Line) :
      units meant (chunks.foldl (applyChunk text names) cart) = units meant cart := by
    induction chunks generalizing cart with
    | nil => rfl
    | cons chunk chunks ih => exact (ih _).trans units_applyChunk
  exact hfold _ _ _

theorem conserved_of_added {items : List NewItem} {after : Order}
    (hfolded : ∀ matched ∈ scansOf letters menuItems message, FoldRecorded letters matched)
    (hcart : ∀ id, units (itself id) after.cart =
      units (itself id) order.cart + ordered (itself id) items)
    (hitems : ∀ id, ordered (itself id) items = wanted (itself id) entries) :
    Conserved letters (scansOf letters menuItems message) order.cart entries
      (after, .added items) where
  counted id := by simp [Reply.pending, asked, hcart, hitems]
  held := by simp [Reply.pending]
  folded := hfolded

-- Of the items that need options one is asked about, and the others are gone.
theorem askFirst_conserved_iff
    (hfolded : ∀ matched ∈ scansOf letters menuItems message, FoldRecorded letters matched)
    (hready : ∀ entry, (ready entry).menuItemId = entry.item.id ∧
      (ready entry).quantity = entry.quantity)
    (hpositive : ∀ entry ∈ entries, 0 < entry.quantity)
    (h : askFirst text needs ready order entries = some placed) :
    Conserved letters (scansOf letters menuItems message) order.cart entries placed ↔
      (entries.filter needs).length ≤ 1 := by
  obtain ⟨entry, hentry, rfl⟩ := Option.map_eq_some_iff.mp h
  obtain ⟨rest, hrest⟩ : ∃ rest, entries.filter needs = entry :: rest := by
    rw [← List.head?_filter] at hentry
    exact ⟨_, (List.head?_eq_some_iff.mp hentry).choose_spec⟩
  have hasked (id : Uuid) : asked (itself id) [⟨entry.item, entry.quantity, entry.modifier⟩] =
      if itself id entry.item.id then entry.quantity else 0 := by
    unfold asked
    split <;> simp_all
  have hcounted (id : Uuid) : wanted (itself id) entries =
      (if itself id entry.item.id then entry.quantity else 0) + wanted (itself id) rest +
        wanted (itself id) (entries.filter fun entry => !needs entry) := by
    rw [wanted_filter needs, hrest, wanted_cons]
  constructor
  · intro hconserved
    cases rest with
    | nil => simp [hrest]
    | cons lost rest =>
        exfalso
        have hid := hconserved.counted lost.item.id
        simp only [Reply.pending, hasked, hcounted, Order.add, Allocation.units_addAll,
          ordered_map hready] at hid
        have hmem : ∀ entry ∈ lost :: rest, 0 < entry.quantity := fun entry hmem =>
          hpositive entry (List.mem_of_mem_filter (hrest ▸ List.mem_cons_of_mem _ hmem))
        have hlost : 0 < wanted (itself lost.item.id) (lost :: rest) := by
          rw [wanted_cons, if_pos (by simp [itself])]
          have hrest : 0 ≤ wanted (itself lost.item.id) rest := by
            refine List.sum_nonneg fun quantity hquantity => ?_
            obtain ⟨entry, hentry, rfl⟩ := List.mem_map.mp hquantity
            exact (hmem entry (List.mem_cons_of_mem _ (List.mem_of_mem_filter hentry))).le
          have hfirst := hmem lost List.mem_cons_self
          omega
        omega
  · intro hone
    rw [hrest, List.length_cons] at hone
    obtain rfl : rest = [] := List.eq_nil_of_length_eq_zero (by omega)
    refine ⟨fun id => ?_, by simp [Reply.pending], hfolded⟩
    simp only [Reply.pending, hasked, hcounted, Order.add, Allocation.units_addAll,
      ordered_map hready]
    have hnil : wanted (itself id) [] = 0 := rfl
    omega

theorem readMessage_positive (h : readMessage letters menuItems msgText = .ok entries) :
    ∀ entry ∈ entries, 0 < entry.quantity := by
  obtain ⟨found, hfound, rfl⟩ := Fallible.map_eq_ok.mp h
  obtain ⟨-, -, hkept⟩ := Fallible.bind_eq_ok hfound
  intro entry hentry
  obtain ⟨triple, htriple, rfl⟩ := List.mem_map.mp hentry
  obtain ⟨m, -, hm⟩ := Fallible.mem_mapM_ok hkept triple htriple
  obtain ⟨quantity, hquantity, rfl⟩ := Fallible.map_eq_ok.mp hm
  exact (Quantities.readQuantity_range hquantity).1

theorem recognised_positive (h : recognised letters p menuItems order message = .ok entries) :
    ∀ entry ∈ entries, 0 < entry.quantity := by
  have hread {eligible : Bool} {normText : String} (h : (if eligible then readMessage letters menuItems normText
      else .ok []) = .ok entries) : ∀ entry ∈ entries, 0 < entry.quantity := by
    split at h
    · exact readMessage_positive h
    · cases h
      simp
  cases message with
  | order intent normText => exact hread h
  | addition intent msgText normText => exact hread h
  | acceptance =>
      obtain ⟨found, hfound, rfl⟩ := Fallible.map_eq_ok.mp h
      intro entry hentry
      obtain ⟨recommended, -, hentry⟩ :=
        Fallible.mem_mapM_ok hfound _ (List.reduceOption_mem_iff.mp hentry)
      obtain ⟨matched, -, hentry⟩ := Fallible.map_eq_ok.mp hentry
      obtain ⟨item, -, rfl⟩ := Option.map_eq_some_iff.mp hentry
      exact Int.lt_of_lt_of_le one_pos (le_max_left _ _)

variable (order) in
theorem conserved_askFirst {after : Option (Order × Reply)}
    (hfolded : ∀ matched ∈ scansOf letters menuItems message, FoldRecorded letters matched)
    (hready : ∀ entry, (ready entry).menuItemId = entry.item.id ∧
      (ready entry).quantity = entry.quantity)
    (hpositive : ∀ entry ∈ entries, 0 < entry.quantity)
    (hafter : ∀ placed, after = some placed →
      Conserved letters (scansOf letters menuItems message) order.cart entries placed)
    (h : (askFirst text needs ready order entries).or after = some placed) :
    Conserved letters (scansOf letters menuItems message) order.cart entries placed ↔
      (entries.filter needs).length ≤ 1 := by
  cases hask : askFirst text needs ready order entries with
  | some asked =>
      rw [hask, Option.some_or] at h
      exact askFirst_conserved_iff hfolded hready hpositive (hask.trans h)
  | none =>
      rw [hask, Option.none_or] at h
      refine iff_of_true (hafter placed h) ?_
      have hnone := List.find?_eq_none.mp (Option.map_eq_none_iff.mp hask)
      simp [List.filter_eq_nil_iff.mpr hnone]

theorem placed_conserved_iff
    (hfolded : ∀ matched ∈ scansOf letters menuItems message, FoldRecorded letters matched)
    (hpositive : ∀ entry ∈ entries, 0 < entry.quantity)
    (h : place text sortOrder addOns order message entries = some placed) :
    Conserved letters (scansOf letters menuItems message) order.cart entries placed ↔
      (entries.filter (needsOpts text message)).length ≤ 1 := by
  cases message with
  | order intent normText =>
      simp only [place] at h
      split at h
      next => cases h
      next =>
        refine conserved_askFirst order hfolded (fun _ => ⟨rfl, rfl⟩) hpositive
          (fun placed h => ?_) h
        simp only [addReady] at h
        split at h
        next => cases h
        next =>
          obtain rfl := Option.some.inj h
          refine conserved_of_added hfolded (fun id => Allocation.units_addAll) fun id => ?_
          split
          next => exact ordered_map fun _ => ⟨rfl, rfl⟩
          next => exact ordered_flatMap fun _ => ordered_perUnit
  | addition intent msgText normText =>
      simp only [place] at h
      split at h
      next => cases h
      next =>
        refine conserved_askFirst order hfolded (fun _ => ⟨rfl, rfl⟩) hpositive
          (fun placed h => ?_) h
        obtain rfl := Option.some.inj h
        exact conserved_of_added hfolded
          (fun id => units_applyChunks.trans Allocation.units_addAll)
          fun id => ordered_map fun _ => ⟨rfl, rfl⟩
  | acceptance =>
      refine conserved_askFirst { order with recommendedItems := [] } hfolded
        (fun _ => ⟨rfl, rfl⟩) hpositive (fun placed h => ?_) h
      split at h
      next hnone =>
        obtain rfl := Option.some.inj h
        subst hnone
        exact ⟨fun id => by simp [wanted, asked, Reply.pending], by simp [Reply.pending], hfolded⟩
      next =>
        obtain rfl := Option.some.inj h
        exact conserved_of_added hfolded (fun id => Allocation.units_addAll)
          fun id => ordered_map fun _ => ⟨rfl, rfl⟩

theorem scans_recorded_iff :
    (∀ matched ∈ scansOf letters menuItems message, FoldRecorded letters matched) ↔
      ∀ matched ∈ scansOf letters menuItems message, Hosted letters matched := by
  cases message with
  | order intent normText => exact folds_recorded_iff
  | addition intent msgText normText => exact folds_recorded_iff
  | acceptance => simp [scansOf]

theorem recognised_conserved_iff
    (hentries : recognised letters p menuItems order message = .ok entries)
    (hplaced : place p.toText sortOrder addOns order message entries = some placed) :
    Conserved letters (scansOf letters menuItems message) order.cart entries placed ↔
      (entries.filter (needsOpts p.toText message)).length ≤ 1 ∧
        ∀ matched ∈ scansOf letters menuItems message, Hosted letters matched := by
  have hpositive := recognised_positive hentries
  constructor
  · intro h
    exact ⟨(placed_conserved_iff h.folded hpositive hplaced).mp h, scans_recorded_iff.mp h.folded⟩
  · rintro ⟨hone, hhosted⟩
    exact (placed_conserved_iff (scans_recorded_iff.mpr hhosted) hpositive hplaced).mpr hone

end Conservation

section Spice

def asciiPlatform : Platform where
  toText := Detectors.asciiText
  int? := String.toInt?
  loads := fun _ => .error .valueError
  fenced := fun _ => none
  textBeforeJson := id
  cleanResponseText := id
  scrub := fun _ text => text

def spice : OptionGroup where
  id := "spice"
  name := "Spice Level"
  required := true
  isEnabled := true
  options := [⟨"mild", "Mild", 0, true⟩, ⟨"hot", "Hot", 0, true⟩]

def spiced (id : Uuid) (name : String) : MenuItem :=
  { soldItem id name 9000 with optionGroups := [spice] }

def noAddOns : AddOns := ⟨fun _ => [], fun _ _ => [], fun modifier _ => modifier⟩

def atStart : Order := ⟨.idle, [], [], [], []⟩

def entriesOf (menuItems : List MenuItem) (message : Message) : List Entry :=
  ((recognised asciiLetters asciiPlatform menuItems atStart message).toOption).getD []

def placedFor (menuItems : List MenuItem) (message : Message) : Order × Reply :=
  (place Detectors.asciiText (fun _ => 0) noAddOns atStart message
    (entriesOf menuItems message)).getD (atStart, .notFound)

def meal : MenuItem :=
  { soldItem 1 "Burger Meal" 9000 with
    optionGroups := [{ spice with options := [⟨"chips", "Chips", 0, true⟩], required := false }] }

def lunchMenu : List MenuItem := [meal, soldItem 2 "Chips" 2500, spiced 3 "Wrap", spiced 4 "Wings"]

def mealOrder : Message := .order (some .orderStart) "2 burger meal with chips and 3 wings"

-- The chips of the meal are noted on it, and the wings are asked about.
theorem meal_and_wings :
    Conserved asciiLetters (scansOf asciiLetters lunchMenu mealOrder) []
      (entriesOf lunchMenu mealOrder) (placedFor lunchMenu mealOrder) := by
  obtain ⟨hentries, hplaced, hone, hhosted⟩ :
      recognised asciiLetters asciiPlatform lunchMenu atStart mealOrder =
          .ok (entriesOf lunchMenu mealOrder) ∧
        place asciiPlatform.toText (fun _ => 0) noAddOns atStart mealOrder
          (entriesOf lunchMenu mealOrder) = some (placedFor lunchMenu mealOrder) ∧
        ((entriesOf lunchMenu mealOrder).filter
          (needsOpts asciiPlatform.toText mealOrder)).length ≤ 1 ∧
        ∀ matched ∈ scansOf asciiLetters lunchMenu mealOrder, Hosted asciiLetters matched := by
    decide +kernel
  exact (recognised_conserved_iff hentries hplaced).mpr ⟨hone, hhosted⟩

def twoOrder : Message := .order (some .orderStart) "1 wrap and 3 wings"

-- Of two items that need a choice the second is gone.
theorem wings_lost :
    ¬ ∀ (letters : Letters) (p : Platform) (sortOrder : OptionGroup → Int) (addOns : AddOns)
      (menuItems : List MenuItem) (order : Order) (message : Message) (entries : List Entry)
      (placed : Order × Reply),
      recognised letters p menuItems order message = .ok entries →
      place p.toText sortOrder addOns order message entries = some placed →
        Conserved letters (scansOf letters menuItems message) order.cart entries placed := by
  intro h
  obtain ⟨hentries, hplaced, hlost⟩ :
      recognised asciiLetters asciiPlatform lunchMenu atStart twoOrder =
          .ok (entriesOf lunchMenu twoOrder) ∧
        place asciiPlatform.toText (fun _ => 0) noAddOns atStart twoOrder
          (entriesOf lunchMenu twoOrder) = some (placedFor lunchMenu twoOrder) ∧
        units (itself 4) atStart.cart + wanted (itself 4) (entriesOf lunchMenu twoOrder) ≠
          units (itself 4) (placedFor lunchMenu twoOrder).1.cart +
            asked (itself 4) (placedFor lunchMenu twoOrder).2.pending := by
    decide +kernel
  exact hlost ((h asciiLetters asciiPlatform (fun _ => 0) noAddOns lunchMenu atStart twoOrder
    _ _ hentries hplaced).counted 4)

end Spice

end NextgenBackend.Bot.Extraction
