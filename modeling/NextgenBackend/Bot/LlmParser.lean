import NextgenBackend.Bot.Cart

namespace NextgenBackend.Bot.Llm

inductive Number where
  | finite (value : Rat)
  | infinite
  | notANumber
deriving DecidableEq

inductive Json where
  | null
  | bool (b : Bool)
  | int (n : Int)
  | float (x : Number)
  | str (s : String)
  | arr (items : List Json)
  | obj (fields : List (String × Json))

abbrev Object := List (String × Json)

inductive PyError where
  | attributeError
  | typeError
  | valueError
  | overflowError
  | recursionError
deriving DecidableEq, Repr

namespace Json

def truthy : Json → Bool
  | null => false
  | bool b => b
  | int n => n ≠ 0
  | float (.finite value) => value ≠ 0
  | float _ => true
  | str s => s ≠ ""
  | arr items => !items.isEmpty
  | obj fields => !fields.isEmpty

def or (value default : Json) : Json :=
  if value.truthy then value else default

def isObj : Json → Bool
  | obj _ => true
  | _ => false

-- Only text and lists can be cut to a preview.
def isSliceable : Json → Bool
  | str _ => true
  | arr _ => true
  | _ => false

def isHashable : Json → Bool
  | arr _ => false
  | obj _ => false
  | _ => true

def is (value : Json) (expected : String) : Bool :=
  match value with
  | str s => s = expected
  | _ => false

-- What a loop over a value goes through: the characters of a text, the keys of an object.
def elements : Json → Option (List Json)
  | str s => some (s.toList.map fun c => str (String.singleton c))
  | arr items => some items
  | obj fields => some (fields.map fun field => str field.1)
  | _ => none

end Json

def field (fields : Object) (name : String) (default : Json) : Json :=
  (fields.lookup name).getD default

-- The decoder, the number and text operations of the platform and the parser's patterns.
structure Platform extends Cart.Text where
  int? : String → Option Int
  loads : String → Except PyError (Option Object)
  fenced : String → Option String
  textBeforeJson : String → String
  cleanResponseText : String → String
  scrub : String → String → String

structure ParsedItem where
  name : Json
  quantity : Json
  options : Json
  addOns : List Object
  specialInstructions : Json
  originalText : Json
  remove : Json
  add : Json

structure ParsedLlmResponse where
  action : Json
  items : List ParsedItem
  message : Json

-- Reads a text from its end: the last closing brace, back to the brace that opens its block.
def lastBlock : List Char → Int → Option (List Char) → Option (List Char)
  | [], _, _ => none
  | c :: rest, depth, block =>
      if c = '}' then
        lastBlock rest (depth + 1) (if depth = 0 then some [c] else block.map (c :: ·))
      else if c = '{' then
        if depth - 1 = 0 then block.map (c :: ·)
        else lastBlock rest (depth - 1) (block.map (c :: ·))
      else lastBlock rest depth (block.map (c :: ·))

section Parse

variable (p : Platform)

def loadLastBlock (text : String) : Except PyError (Option Object) :=
  match lastBlock text.toList.reverse 0 none with
  | none => .ok none
  | some block => p.loads (String.ofList block)

def extractJson (text : String) : Except PyError (Option Object) :=
  match p.fenced text with
  | none => loadLastBlock p text
  | some block => do
      match ← p.loads block with
      | some fields => .ok (some fields)
      | none => loadLastBlock p text

def parseAddOns (fields : Object) : Option (List Object) :=
  ((field fields "add_ons" .null).or (.arr [])).elements.map fun entries =>
    entries.filterMap fun entry =>
      match entry with
      | .obj addOn => if (field addOn "name" .null).truthy then some addOn else none
      | _ => none

def parseItem (fields : Object) : Option ParsedItem :=
  (parseAddOns fields).map fun addOns =>
    { name := field fields "name" .null
      quantity := field fields "quantity" (.int 1)
      options := field fields "options" (.obj [])
      addOns := addOns
      specialInstructions := field fields "special_instructions" .null
      originalText := field fields "original_text" .null
      remove := field fields "remove" .null
      add := field fields "add" .null }

def parseItems (items : Json) : Option (List ParsedItem) :=
  items.elements.bind fun entries =>
    (entries.filterMap fun entry =>
      match entry with
      | .obj fields => some (parseItem fields)
      | _ => none).mapM id

def chitchat (text : String) : ParsedLlmResponse where
  action := .str "chitchat"
  items := []
  message := .str (p.cleanResponseText text)

-- Where a loop over the items fails, the failure is caught and the text is taken as chitchat.
def readResponse (text : String) : Option Object → ParsedLlmResponse
  | none => chitchat p text
  | some [] => chitchat p text
  | some fields =>
      match parseItems (field fields "items" (.arr [])) with
      | none => chitchat p text
      | some items =>
          { action := field fields "action" (.str "chitchat")
            items := items
            message := (field fields "message" (.str "")).or (.str (p.textBeforeJson text)) }

def parseLlmResponse (text : String) : Except PyError ParsedLlmResponse :=
  (extractJson p text).map (readResponse p text)

end Parse

end NextgenBackend.Bot.Llm
