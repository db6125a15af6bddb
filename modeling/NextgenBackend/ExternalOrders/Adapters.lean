import NextgenBackend.ExternalOrders.Service
import NextgenBackend.Library.Decimal.Number
import NextgenBackend.Library.Dict

namespace NextgenBackend.ExternalOrders.Adapters

structure ExternalOrderLine where
  externalItemText : String
  quantity : Int
  modifiers : List String
  sizeText : Option String
  grossCents : Option Cents
  sourceRow : Nat
deriving DecidableEq

structure CanonicalExternalOrder where
  externalOrderId : String
  placedAt : Instant
  lines : List ExternalOrderLine
  status : Option String
  grossCents : Option Cents
deriving DecidableEq

structure RowIssue where
  row : Nat
  message : String
deriving DecidableEq

structure AdapterResult where
  orders : List CanonicalExternalOrder := []
  issues : List RowIssue := []
  detectedColumns : List String := []
  resolvedMapping : Dict String String := .empty
  missingRequired : List String := []
deriving DecidableEq

-- No cell is longer than the field limit of the reader the rows come from.
def fieldSizeLimit : Nat := 131072

structure Row where
  cells : Dict String String
  short : ∀ cell ∈ cells.values, cell.length ≤ fieldSizeLimit

-- What the standard library reads dates and writes representations with.
structure Standard where
  strptime : List Char → String → Option Instant
  fromIsoformat : List Char → Option Instant
  repr : String → String

def columnAliases : List (String × List String) :=
  [("external_order_id", ["order id", "orderid", "order number", "order no", "order num", "order",
      "order reference", "reference", "ref", "receipt id", "transaction id", "uber order id",
      "mr d order id", "order code"]),
    ("order_datetime", ["order datetime", "date time", "datetime", "timestamp", "ordered at",
      "placed at", "created at", "order placed"]),
    ("order_date", ["order date", "date", "day", "business date", "sale date"]),
    ("order_time", ["order time", "time", "time placed"]),
    ("item", ["item", "item name", "product", "product name", "menu item", "dish", "description",
      "item description", "line item"]),
    ("quantity", ["quantity", "qty", "count", "units", "item quantity", "no of items"]),
    ("size", ["size", "variant", "portion size", "item size"]),
    ("modifiers", ["modifier", "modifiers", "options", "option", "add ons", "addons", "add-ons",
      "extras", "customisations", "customizations", "toppings", "item options",
      "modifier list"]),
    ("price", ["price", "gross", "total", "amount", "item total", "line total", "gross sales",
      "item price", "sale amount", "order total"]),
    ("status", ["status", "order status", "state", "order state"])]

def requiredFields : List String := ["external_order_id", "item", "quantity"]

-- Two letters outside ASCII have a lower case that the heading keeps.
def lowered (c : Char) : Char :=
  if c.toNat = 0x130 then 'i' else if c.toNat = 0x212A then 'k' else c.toLower

def isHeadingChar (c : Char) : Bool :=
  ('a' ≤ c && c ≤ 'z') || ('0' ≤ c && c ≤ '9') || c = ' '

def normaliseHeading (heading : String) : String :=
  let text := (Text.strip heading.toList).map lowered
  let text := text.map fun c => if c ∈ ['_', '-', '/'] then ' ' else c
  " ".intercalate ((Text.words (text.filter isHeadingChar)).map String.ofList)

def isAlias (aliases : List String) (norm : String) : Bool :=
  norm ∈ aliases

def holdsAlias (aliases : List String) (norm : String) : Bool :=
  norm ≠ "" && aliases.any fun a => a.toList <:+: norm.toList

-- The first free heading that matches is claimed by the field.
def claim (accepts : List String → String → Bool) (headings : List String)
    (resolved : Dict String String) (field : String × List String) : Dict String String :=
  if (resolved.lookup field.1).isSome then resolved
  else
    match headings.find? fun heading =>
      heading ∉ resolved.values ∧ accepts field.2 (normaliseHeading heading) with
    | some heading => resolved.set field.1 heading
    | none => resolved

def detectColumns (headings : List String) : Dict String String :=
  let named := headings.filter (· ≠ "")
  columnAliases.foldl (claim holdsAlias named) (columnAliases.foldl (claim isAlias named) .empty)

def dateFormats : List String :=
  ["%Y-%m-%d %H:%M:%S", "%Y-%m-%d %H:%M", "%Y-%m-%dT%H:%M:%S", "%Y-%m-%dT%H:%M",
    "%Y/%m/%d %H:%M:%S", "%Y/%m/%d %H:%M", "%d/%m/%Y %H:%M:%S", "%d/%m/%Y %H:%M",
    "%m/%d/%Y %H:%M:%S", "%m/%d/%Y %H:%M", "%d-%m-%Y %H:%M:%S", "%d-%m-%Y %H:%M",
    "%d %b %Y %H:%M", "%d %B %Y %H:%M", "%Y-%m-%d", "%Y/%m/%d", "%d/%m/%Y", "%d-%m-%Y",
    "%d %b %Y", "%d %B %Y"]

def hasClock : List Char → Bool
  | a :: b :: c :: cs => (Text.isDigit a && b = ':' && Text.isDigit c) || hasClock (b :: c :: cs)
  | _ => false

def dropOffset (raw : List Char) : List Char :=
  let isOffset (sign a b c d : Char) : Bool :=
    (sign = '+' || sign = '-') && [a, b, c, d].all Text.isDigit
  let cut (rest : List Char) : List Char := (rest.dropWhile Text.isSpace).reverse
  match raw.reverse with
  | d :: c :: ':' :: b :: a :: sign :: rest => if isOffset sign a b c d then cut rest else raw
  | d :: c :: b :: a :: sign :: rest => if isOffset sign a b c d then cut rest else raw
  | _ => raw

def parseDatetime (py : Standard) (dateText timeText : Option String) : Option Instant :=
  let raw := Text.strip (dateText.getD "").toList
  if raw = [] then none
  else
    let time := Text.strip (timeText.getD "").toList
    let raw := if time ≠ [] ∧ ¬ hasClock raw then raw ++ ' ' :: time else raw
    let raw := Text.strip (raw.filter (· ≠ 'Z'))
    let raw := Text.strip (dropOffset raw)
    dateFormats.findSome? (py.strptime raw) <|> py.fromIsoformat raw

def isMoneyChar (c : Char) : Bool :=
  Text.isDigit c || c ∈ [',', '.', '-']

-- One comma before one or two characters is a decimal comma, any other separates thousands.
def plainAmount (raw : List Char) : List Char :=
  if ',' ∈ raw ∧ '.' ∈ raw then raw.filter (· ≠ ',')
  else if raw.count ',' = 1 ∧ ((raw.splitOn ',').getLastD []).length ∈ [1, 2] then
    raw.map fun c => if c = ',' then '.' else c
  else raw.filter (· ≠ ',')

def toCents (number : Decimal.Number) : Except Decimal.Raised Int := do
  let scaled ← number.mul Decimal.defaultContext (.finite 100)
  let whole ← scaled.quantizeHalfEven Decimal.defaultContext
  whole.toInt

def parseMoneyCents (text : Option String) : Except Decimal.Raised (Option Cents) :=
  let raw := (Text.strip (text.getD "").toList).filter isMoneyChar
  if raw ∈ [[], ['-'], ['.'], [',']] then .ok none
  else
    match Decimal.parse (plainAmount raw) with
    | none => .ok none
    | some number =>
        match toCents number with
        | .ok cents => .ok (some cents)
        | .error .invalidOperation | .error (.valueError _) => .ok none
        | .error raised => .error raised

def isQuantityChar (c : Char) : Bool :=
  Text.isDigit c || c ∈ ['.', '-']

def parseQuantity (text : Option String) : Option Int :=
  let raw := Text.strip (text.getD "").toList
  if raw = [] then some 1
  else
    let kept := raw.filter isQuantityChar
    match Decimal.parse (if kept = [] then ['0'] else kept) with
    | some (.finite x) => if x.isInt ∧ 0 < x then some x.num else none
    | _ => none

-- A comma parts modifiers unless a bracket closes behind it before another opens.
def splitModifiers (text : Option String) : List String :=
  let raw := Text.strip (text.getD "").toList
  ((pieces raw).map Text.strip).filter (· ≠ []) |>.map String.ofList
where
  parts (c : Char) (rest : List Char) : Bool :=
    c ∈ [';', '|', '\n'] || (c = ',' && ')' ∉ rest.takeWhile (· ≠ '('))
  pieces : List Char → List (List Char)
    | [] => [[]]
    | c :: cs =>
        if parts c cs then [] :: pieces cs
        else (c :: (pieces cs).headD []) :: (pieces cs).tail

def value (resolved : Dict String String) (row : Row) (fieldName : String) : Option String :=
  ((resolved.lookup fieldName).filter (· ≠ "")).bind row.cells.lookup

def stripped (cell : Option String) : String :=
  String.ofList (Text.strip (cell.getD "").toList)

section Rows

variable (py : Standard) (resolved : Dict String String)

def orderId (row : Row) : String :=
  stripped (value resolved row "external_order_id")

def itemText (row : Row) : String :=
  stripped (value resolved row "item")

def rowQuantity (row : Row) : Option Int :=
  parseQuantity (value resolved row "quantity")

def rowPlacedAt (row : Row) : Option Instant :=
  parseDatetime py
    ((value resolved row "order_datetime").filter (· ≠ "") <|> value resolved row "order_date")
    (value resolved row "order_time")

def rowStatus (row : Row) : Option String :=
  ((value resolved row "status").filter (· ≠ "")).map fun text => stripped (some text)

def rowSize (row : Row) : Option String :=
  (((value resolved row "size").filter (· ≠ "")).map fun text => stripped (some text)).filter
    (· ≠ "")

def readLine (index : Nat) (row : Row) (quantity : Int) :
    Except Decimal.Raised ExternalOrderLine := do
  let grossCents ← parseMoneyCents (value resolved row "price")
  pure
    { externalItemText := itemText resolved row
      quantity := quantity
      modifiers := splitModifiers (value resolved row "modifiers")
      sizeText := rowSize resolved row
      grossCents := grossCents
      sourceRow := index }

def missingOrderId : String := "Missing order ID"

def missingItem (row : Row) : String :=
  s!"Order {orderId resolved row}: missing item name"

def badQuantity (row : Row) : String :=
  s!"Order {orderId resolved row}: quantity " ++
    (value resolved row "quantity").elim "None" py.repr ++ " is not a whole number above zero"

def unreadableDate (row : Row) : String :=
  s!"Order {orderId resolved row}: could not read the order date/time. Stock has to be dated when the sale happened, so this order cannot be imported without it."

end Rows

def newOrder (externalOrderId : String) (placedAt : Instant) (status : Option String)
    (line : ExternalOrderLine) : CanonicalExternalOrder where
  externalOrderId := externalOrderId
  placedAt := placedAt
  lines := [line]
  status := status
  grossCents := line.grossCents

-- The earliest timestamp on the order wins.
def CanonicalExternalOrder.append (order : CanonicalExternalOrder) (placedAt : Option Instant)
    (status : Option String) (line : ExternalOrderLine) : CanonicalExternalOrder :=
  { order with
    lines := order.lines ++ [line]
    status := if order.status = none ∧ status ≠ some "" then status else order.status
    placedAt := placedAt.elim order.placedAt (min order.placedAt)
    grossCents := line.grossCents.elim order.grossCents fun cents =>
      some (order.grossCents.getD 0 + cents) }

structure Adapted where
  grouped : Dict String CanonicalExternalOrder := .empty
  issues : List RowIssue := []
deriving DecidableEq

def Adapted.reject (adapted : Adapted) (index : Nat) (message : String) : Adapted :=
  { adapted with issues := adapted.issues ++ [⟨index, message⟩] }

def Adapted.put (adapted : Adapted) (orderId : String) (order : CanonicalExternalOrder) :
    Adapted :=
  { adapted with grouped := adapted.grouped.set orderId order }

def adaptRow (py : Standard) (resolved : Dict String String) (adapted : Adapted)
    (entry : Row × Nat) : Except Decimal.Raised Adapted :=
  let (row, index) := entry
  let orderId := orderId resolved row
  if orderId = "" ∧ itemText resolved row = "" then .ok adapted
  else if orderId = "" then .ok (adapted.reject index missingOrderId)
  else if itemText resolved row = "" then .ok (adapted.reject index (missingItem resolved row))
  else
    match rowQuantity resolved row with
    | none => .ok (adapted.reject index (badQuantity py resolved row))
    | some quantity =>
        match adapted.grouped.lookup orderId, rowPlacedAt py resolved row with
        | none, none => .ok (adapted.reject index (unreadableDate resolved row))
        | none, some placedAt => do
            let line ← readLine resolved index row quantity
            pure (adapted.put orderId (newOrder orderId placedAt (rowStatus resolved row) line))
        | some existing, placedAt => do
            let line ← readLine resolved index row quantity
            pure (adapted.put orderId (existing.append placedAt (rowStatus resolved row) line))

def noteHeading (headings : List String) (key : String) : List String :=
  if key ≠ "" ∧ key ∉ headings then headings ++ [key] else headings

def detectedHeadings (rows : List Row) : List String :=
  ((rows.take 10).flatMap (·.cells.keys)).foldl noteHeading []

def override (resolved : Dict String String) (correction : String × String) :
    Dict String String :=
  if correction.2 ≠ "" then resolved.set correction.1 correction.2
  else resolved.erase correction.1

def resolvedMapping (rows : List Row) (mappingOverride : Dict String String) :
    Dict String String :=
  mappingOverride.entries.foldl override (detectColumns (detectedHeadings rows))

def missingRequired (resolved : Dict String String) : List String :=
  requiredFields.filter fun fieldName => (resolved.lookup fieldName).isNone

-- The header is row 1.
def adaptRows (py : Standard) (rows : List Row) (mappingOverride : Dict String String) :
    Except Decimal.Raised AdapterResult :=
  if rows = [] then .ok {}
  else
    let resolved := resolvedMapping rows mappingOverride
    let result : AdapterResult :=
      { detectedColumns := detectedHeadings rows
        resolvedMapping := resolved
        missingRequired := missingRequired resolved }
    if result.missingRequired ≠ [] then .ok result
    else do
      let adapted ← (rows.zipIdx 2).foldlM (adaptRow py resolved) {}
      pure { result with orders := adapted.grouped.values, issues := adapted.issues }

end NextgenBackend.ExternalOrders.Adapters
