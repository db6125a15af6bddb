import NextgenBackend.Bot.LlmParser
import NextgenBackend.Shared.Enums

namespace NextgenBackend.Bot.Llm

-- Special instructions as a line keeps them: a text, or one of the values taken for none.
inductive Note where
  | none
  | text (s : String)
  | zero
  | emptyList
  | emptyDict
deriving DecidableEq, Repr

def Note.text? : Note → Option String
  | .text s => some s
  | _ => .none

structure Line where
  entry : Cart.Line
  note : Note
  options : Json

structure Addition where
  item : Cart.NewItem
  note : Note
  options : Json

def newLine (a : Addition) : Line where
  entry := Cart.newLine a.item
  note := a.note
  options := a.options

def accumulates (a : Addition) (line : Line) : Bool :=
  line.entry.menuItemId = a.item.menuItemId ∧ line.entry.selectedOptions = a.item.selectedOptions ∧
    line.entry.addOns = a.item.addOns ∧ line.note = a.note

def raiseQuantity (quantity : Int) (line : Line) : Line :=
  { line with entry := Cart.setQuantity (line.entry.quantity + quantity) line.entry }

def addToCart (cart : List Line) (a : Addition) : List Line :=
  match cart.findIdx? (accumulates a) with
  | some i => cart.modify i (raiseQuantity a.item.quantity)
  | none => cart ++ [newLine a]

structure Available where
  addOnId : Uuid
  name : String
  priceCents : Cents
  minQty : Int
  maxQty : Int
  defaultQty : Int

structure Pending where
  name : Json
  quantity : Json
  options : Json
  specialInstructions : Json

structure Extracted where
  item : MenuItem
  quantity : Int
  specialInstructions : Option String

structure Conversation where
  state : ConversationState
  cart : List Line
  confirmedCart : List Line := []
  pendingOptions : Option (List Pending) := none
  recommendedItems : Option (List Pending) := none
  proposedItems : Option (List Extracted) := none

-- The menu, the message the model answers and what reads items and totals out of a text.
structure Shop where
  menu : List MenuItem
  addOnsFor : Uuid → List Available
  intent : Option MessageIntent
  msgText : String
  normText : String
  snapshot : Option Conversation
  extract : (ignorePriceAmbiguity : Bool) → String → Except PyError (List Extracted)
  statedTotal : String → Except PyError (Option Int)

inductive Reply where
  | added (labels unmatched : List String)
  | removed
  | emptied
  | replaced (labels errors : List String)
  | confirmation
  | cancelled
  | handoff
  | retry (text : String)
  | message (text : Json)

structure Outcome where
  conversation : Conversation
  reply : Reply

-- A later entry takes the place of an earlier one with its key.
def dictOf {α : Type} (entries : List (String × α)) : List (String × α) :=
  entries.foldl (fun dict entry =>
    if dict.any fun old => old.1 = entry.1 then
      dict.map fun old => if old.1 = entry.1 then entry else old
    else dict ++ [entry]) []

section Reading

variable (p : Platform)

def isActive (item : MenuItem) : Bool := item.isActive && !item.isDeleted

def itemsMap (menu : List MenuItem) : List (String × MenuItem) :=
  dictOf ((menu.filter isActive).map fun item => (p.lower item.name, item))

def candidates (menu : List MenuItem) (name : String) (length : Nat) : List (Nat × MenuItem) :=
  ((itemsMap p menu).filter fun entry =>
    Cart.contains (p.lower name) entry.1 && max length 1 ≤ 2 * entry.1.length).map
      fun entry => (entry.1.length, entry.2)

-- Where two candidates have the same length, the sort compares the items themselves and fails.
def longest (found : List (Nat × MenuItem)) : Except PyError (Option MenuItem) :=
  if (found.map (·.1)).Nodup then
    .ok ((found.maxOn? (·.1)).map (·.2))
  else .error .typeError

def menuMatch (menu : List MenuItem) (name : String) (length : Nat) :
    Except PyError (Option MenuItem) :=
  match (itemsMap p menu).lookup (p.lower name) with
  | some item => .ok (some item)
  | none => longest (candidates p menu name length)

def toInt : Json → Except PyError Int
  | .bool b => .ok (if b then 1 else 0)
  | .int n => .ok n
  | .float (.finite value) => .ok (value.num.tdiv value.den)
  | .float .infinite => .error .overflowError
  | .float .notANumber => .error .valueError
  | .str s => (p.int? s).elim (.error .valueError) .ok
  | _ => .error .typeError

def amount (value : Json) (default : Int) : Except PyError Int :=
  if value.truthy then toInt p value else .ok default

def safeQuantity (quantity : Int) : Int := max 1 (min quantity 20)

def findNamed {α : Type} (dict : List (String × α)) (name : String) : Option α :=
  (dict.lookup name).or
    ((dict.find? fun entry => Cart.contains name entry.1 || Cart.contains entry.1 name).map (·.2))

def groupFor (item : MenuItem) (name : String) : Option OptionGroup :=
  findNamed (dictOf (item.optionGroups.map fun g => (p.lower g.name, g))) (p.lower name)

def selectedOption (group : OptionGroup) (option : MenuOption) : SelectedOption where
  groupId := group.id
  groupName := group.name
  optionId := option.id
  optionName := option.name
  priceDeltaCents := option.priceDeltaCents

def resolveOption (item : MenuItem) (choice : String × Json) :
    Except PyError (Option SelectedOption) :=
  if choice.1 = "" ∨ ¬ choice.2.truthy then .ok none
  else
    match groupFor p item choice.1, choice.2 with
    | none, _ => .ok none
    | some group, .str option => .ok
        ((findNamed (dictOf (group.options.map fun o => (p.lower o.name, o))) (p.lower option)).map
          (selectedOption group))
    | some _, _ => .error .attributeError

def resolveOptionPrices (item : MenuItem) (options : Json) : Except PyError (List SelectedOption) :=
  if ¬ options.truthy ∨ item.optionGroups = [] then .ok []
  else
    match options with
    | .obj fields => (fields.mapM (resolveOption p item)).map fun found => found.filterMap id
    | _ => .error .attributeError

def selectedAddOn (addOn : Available) (quantity : Int) : SelectedAddOn where
  addOnId := addOn.addOnId
  name := addOn.name
  priceCents := addOn.priceCents
  quantity := quantity

def availableMap (available : List Available) : List (String × Available) :=
  dictOf (available.map fun addOn => (p.lower addOn.name, addOn))

def addOnFor (available : List Available) (name : String) : Option Available :=
  if p.strip (p.lower name) = "" then none
  else findNamed (availableMap p available) (p.strip (p.lower name))

def resolveAddOn (available : List Available) (request : Object) :
    Except PyError (Option SelectedAddOn) :=
  match (field request "name" .null).or (.str "") with
  | .str name =>
      match addOnFor p available name with
      | none => .ok none
      | some addOn => do
          let requested ← amount p (field request "quantity" .null) addOn.defaultQty
          let quantity := max addOn.minQty (min addOn.maxQty requested)
          pure (if quantity = 0 then none else some (selectedAddOn addOn quantity))
  | _ => .error .attributeError

def resolveAddOns (available : List Available) (requests : List Object) :
    Except PyError (List SelectedAddOn) :=
  if available = [] then .ok []
  else (requests.mapM (resolveAddOn p available)).map fun found => found.filterMap id

def rescue (available : List Available) (existing : List SelectedAddOn) (text : String) :
    String × List SelectedAddOn :=
  available.foldl (fun (cleaned, rescued) addOn =>
    if (existing ++ rescued).any (fun a => p.lower a.name = p.lower addOn.name) ||
        !Cart.contains (p.lower cleaned) (p.lower addOn.name) then (cleaned, rescued)
    else (p.scrub addOn.name cleaned, rescued ++ [selectedAddOn addOn addOn.defaultQty])) (text, [])

def noteOf : Json → Note
  | .str s => .text s
  | .arr _ => .emptyList
  | .obj _ => .emptyDict
  | .null => .none
  | _ => .zero

def rescueAddOns (available : List Available) (instructions : Json)
    (existing : List SelectedAddOn) : Except PyError (Note × List SelectedAddOn) :=
  if ¬ instructions.truthy then .ok (noteOf instructions, [])
  else
    match instructions with
    | .str text =>
        let (cleaned, rescued) :=
          if p.strip text = "" then (text, []) else rescue p available existing text
        .ok (if rescued = [] then .text text else if cleaned = "" then .none else .text cleaned,
          rescued)
    | _ => .error .attributeError

def readAddition (shop : Shop) (item : MenuItem) (pi : ParsedItem) : Except PyError Addition := do
  let quantity ← amount p pi.quantity 1
  let selected ← resolveOptionPrices p item pi.options
  let addOns ← resolveAddOns p (shop.addOnsFor item.id) pi.addOns
  let (note, rescued) ← rescueAddOns p (shop.addOnsFor item.id) pi.specialInstructions addOns
  pure
    { item :=
        { menuItemId := item.id
          name := item.name
          priceCents := item.priceCents
          quantity := safeQuantity quantity
          selectedOptions := selected
          addOns := addOns ++ rescued
          specialInstructions := note.text? }
      note := note
      options := pi.options.or .null }

inductive AddEntry where
  | skipped
  | unmatched (text : Json)
  | found (addition : Addition)

def readAdd (shop : Shop) (pi : ParsedItem) : Except PyError AddEntry :=
  if ¬ pi.name.truthy then
    .ok (if pi.originalText.truthy then .unmatched pi.originalText else .skipped)
  else
    match pi.name with
    | .str name => do
        match ← menuMatch p shop.menu name (p.lower name).length with
        | some item => (readAddition p shop item pi).map .found
        | none => .ok (.unmatched pi.name)
    | _ => .error .attributeError

inductive ReplaceEntry where
  | unparsed
  | found (remove : String) (addition : Addition)
  | missing (remove add : String) (original : Option MenuItem)

def readReplace (shop : Shop) (pi : ParsedItem) : Except PyError ReplaceEntry :=
  if ¬ (pi.remove.or pi.name).truthy ∨ ¬ pi.add.truthy then .ok .unparsed
  else
    match pi.remove.or pi.name, pi.add with
    | .str remove, .str add => do
        match ← menuMatch p shop.menu add add.length with
        | some item => (readAddition p shop item pi).map (.found remove)
        | none => .ok (.missing remove add ((itemsMap p shop.menu).lookup (p.lower remove)))
    | _, _ => .error .attributeError

def readRemove (pi : ParsedItem) : Except PyError (Option String) :=
  if ¬ pi.name.truthy then .ok none
  else
    match pi.name with
    | .str name => .ok (some name)
    | _ => .error .attributeError

end Reading

section Applying

variable (p : Platform)

def removeFromCart (cart : List Line) (name : String) (hint : Option String) : List Line × Bool :=
  match Cart.removalTarget p.toText (cart.map (·.entry)) name hint with
  | none => (cart, false)
  | some i => (cart.eraseIdx i, true)

def plainItem (item : MenuItem) : Addition where
  item := { menuItemId := item.id, name := item.name, priceCents := item.priceCents }
  note := .none
  options := .null

def applyAdd (cart : List Line) : AddEntry → List Line
  | .found addition => addToCart cart addition
  | _ => cart

def applyReplace (cart : List Line) : ReplaceEntry → List Line
  | .unparsed => cart
  | .found remove addition => addToCart (removeFromCart p cart remove none).1 addition
  | .missing remove _ original =>
      let (cart, removed) := removeFromCart p cart remove none
      match original.filter fun _ => removed with
      | some item => addToCart cart (plainItem item)
      | none => cart

def applyRemove (msgText : String) (cart : List Line) (name : Option String) : List Line :=
  match name with
  | some name => (removeFromCart p cart name (some msgText)).1
  | none => cart

-- The summary goes through the stored options of a line that has no priced ones.
def displays (line : Line) : Bool :=
  !line.options.truthy || line.entry.selectedOptions ≠ [] || line.options.isObj

def cartSummary (cart : List Line) : Except PyError Unit :=
  if cart.all displays then .ok () else .error .attributeError

def labelOf (a : Addition) : String :=
  let options := a.item.selectedOptions.map (·.optionName)
  let addOns := a.item.addOns.map fun addOn => "+" ++ addOn.name
  a.item.name ++ (if options = [] then "" else " (" ++ ", ".intercalate options ++ ")") ++
    (if addOns = [] then "" else " [" ++ ", ".intercalate addOns ++ "]")

def addedLabel : AddEntry → Option String
  | .found a => some (toString a.item.quantity ++ "x " ++ labelOf a)
  | _ => none

def unmatchedText : AddEntry → Option Json
  | .unmatched text => some text
  | _ => none

def joined (texts : List Json) : Except PyError (List String) :=
  texts.mapM fun text =>
    match text with
    | .str s => .ok s
    | _ => .error .typeError

def replacedLabel : ReplaceEntry → Option String
  | .found remove a => some (remove ++ " → " ++ labelOf a)
  | _ => none

def replaceError : ReplaceEntry → Option String
  | .unparsed => some "couldn't parse replacement"
  | .missing _ add _ => some ("couldn't find '" ++ add ++ "' on the menu")
  | .found _ _ => none

end Applying

section Branches

variable (p : Platform) (shop : Shop)

-- The log keeps the first characters of the model's message.
def preview (message : Json) : Except PyError Unit :=
  if message.isSliceable then .ok () else .error .typeError

def itemsRetry : String :=
  "Sorry, I didn't catch the items properly. Please tell me exactly what you'd like to add 😊"

def removalRetry : String :=
  "Sorry, I didn't catch which item to remove. Could you tell me the name of the item you'd " ++
    "like taken off? 😊"

def changeRetry : String :=
  "Sorry, I didn't quite catch that change. Could you tell me exactly which item and the new " ++
    "quantity? 😊"

def orderRetry : String :=
  "Sorry, I couldn't confirm that order accurately. Could you tell me exactly what you'd like, " ++
    "one item at a time? 😊"

def contradictory (c : Conversation) (parsed : ParsedLlmResponse) : Except PyError Outcome :=
  (preview parsed.message).map fun _ =>
    ⟨shop.snapshot.getD c, .retry (if parsed.action.is "remove_item" then removalRetry
      else itemsRetry)⟩

def addItems (c : Conversation) (items : List ParsedItem) : Except PyError Outcome := do
  let entries ← items.mapM (readAdd p shop)
  let cart := entries.foldl applyAdd c.cart
  let unmatched ← joined (entries.filterMap unmatchedText)
  cartSummary cart
  pure
    ⟨{ c with
        cart := cart
        confirmedCart := cart
        pendingOptions := if c.state = .choosingOptions then none else c.pendingOptions
        state := .confirmingOrder },
      .added (entries.filterMap addedLabel) unmatched⟩

def removeItems (c : Conversation) (items : List ParsedItem) : Except PyError Outcome := do
  let names ← items.mapM readRemove
  let cart := names.foldl (applyRemove p shop.msgText) c.cart
  if cart.isEmpty then pure ⟨{ c with cart := cart, state := .idle }, .emptied⟩
  else do
    cartSummary cart
    pure ⟨{ c with cart := cart, confirmedCart := cart, state := .confirmingOrder }, .removed⟩

def replaceItems (c : Conversation) (items : List ParsedItem) : Except PyError Outcome := do
  let entries ← items.mapM (readReplace p shop)
  let cart := entries.foldl (applyReplace p) c.cart
  let reply := Reply.replaced (entries.filterMap replacedLabel) (entries.filterMap replaceError)
  if cart.isEmpty then
    pure ⟨{ c with cart := cart, pendingOptions := none, state := .idle }, reply⟩
  else do
    cartSummary cart
    pure
      ⟨{ c with
          cart := cart
          confirmedCart := cart
          pendingOptions := none
          state := .confirmingOrder }, reply⟩

def pendingOf (items : List ParsedItem) : List Pending :=
  (items.filter fun pi => pi.name.truthy).map fun pi =>
    { name := pi.name
      quantity := pi.quantity.or (.int 1)
      options := pi.options
      specialInstructions := pi.specialInstructions }

def recommendItems (c : Conversation) (parsed : ParsedLlmResponse) : Except PyError Outcome :=
  let recommended := (pendingOf parsed.items).map fun item =>
    { item with options := item.options.or .null }
  .ok
    ⟨{ c with
        recommendedItems := if recommended.isEmpty then c.recommendedItems else some recommended
        state := .browsingMenu }, .message parsed.message⟩

def extractedPending (e : Extracted) : Pending where
  name := .str e.item.name
  quantity := .int e.quantity
  options := .null
  specialInstructions := e.specialInstructions.elim .null .str

def askOptions (c : Conversation) (parsed : ParsedLlmResponse) : Except PyError Outcome := do
  let pending ←
    if (pendingOf parsed.items).isEmpty then
      (shop.extract false shop.normText).map fun found => found.map extractedPending
    else .ok (pendingOf parsed.items)
  pure
    ⟨{ c with
        pendingOptions := if pending.isEmpty then c.pendingOptions else some pending
        state := .choosingOptions }, .message parsed.message⟩

def confirmOrder (c : Conversation) : Except PyError Outcome :=
  if c.cart.isEmpty then .ok ⟨c, .emptied⟩
  else (cartSummary c.cart).map fun _ => ⟨{ c with state := .confirmingOrder }, .confirmation⟩

def cancelOrder (c : Conversation) : Outcome :=
  ⟨{ state := .idle, cart := [] }, .cancelled⟩

def orderIntents : List MessageIntent := [.orderStart, .orderAdd, .orderRemove]

def capturableStates : List ConversationState := [.choosingOptions, .idle, .greeting, .browsingMenu]

-- Only a text can be searched for items, unless the menu has none.
def extractProposal (message : Json) : Except PyError (List Extracted) :=
  match message.or (.str "") with
  | .str text => shop.extract false text
  | _ => if (shop.menu.filter isActive).isEmpty then .ok [] else .error .typeError

def messageText : Json → String
  | .str text => text
  | _ => ""

def proposedTotal (found : List Extracted) : Cents :=
  (found.map fun e => e.item.priceCents * e.quantity).sum

def propose (c : Conversation) (message : Json) : Except PyError Outcome := do
  let found ← extractProposal shop message
  if found.isEmpty then pure ⟨c, .message message⟩
  else do
    let stated ← shop.statedTotal (messageText message)
    if stated.any fun total => 1 < (total - proposedTotal found).natAbs then
      pure ⟨c, .retry orderRetry⟩
    else pure ⟨{ c with proposedItems := some found, state := .choosingOptions }, .message message⟩

def relay (c : Conversation) (message : Json) : Except PyError Outcome :=
  if c.cart.isEmpty then
    if c.state ∈ capturableStates then propose shop c message else .ok ⟨c, .message message⟩
  else do
    preview message
    let mentioned ← shop.extract true shop.msgText
    pure ⟨c, if mentioned.isEmpty then .message message else .retry changeRetry⟩

-- An ordering message needs an action that changes the cart, unless it names no item at all.
def chat (c : Conversation) (parsed : ParsedLlmResponse) : Except PyError Outcome :=
  if shop.intent.any (· ∈ orderIntents) then
    if parsed.action.isHashable then do
      let mentioned ← shop.extract true shop.msgText
      if c.cart.isEmpty && mentioned.isEmpty then relay shop c parsed.message
      else pure ⟨c, .retry (if shop.intent = some .orderRemove then removalRetry else itemsRetry)⟩
    else .error .typeError
  else relay shop c parsed.message

def changesCart (action : Json) : Bool :=
  action.is "add_items" || action.is "remove_item" || action.is "replace_item"

def applyResponse (c : Conversation) (parsed : ParsedLlmResponse) : Except PyError Outcome :=
  if changesCart parsed.action && parsed.items.isEmpty then contradictory shop c parsed
  else if parsed.action.is "add_items" then addItems p shop c parsed.items
  else if parsed.action.is "remove_item" then removeItems p shop c parsed.items
  else if parsed.action.is "replace_item" then replaceItems p shop c parsed.items
  else if parsed.action.is "recommend_items" && !parsed.items.isEmpty then
    recommendItems c parsed
  else if parsed.action.is "ask_options" then askOptions shop c parsed
  else if parsed.action.is "confirm_order" then confirmOrder c
  else if parsed.action.is "cancel_order" then .ok (cancelOrder c)
  else if parsed.action.is "handoff" then .ok ⟨{ c with state := .handoff }, .handoff⟩
  else chat shop c parsed

end Branches

end NextgenBackend.Bot.Llm
