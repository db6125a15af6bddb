import NextgenBackend.Library.InBand
import NextgenBackend.Library.Text
import NextgenBackend.Receipts.Document

namespace NextgenBackend.Receipts.Escpos

open Text

-- Truncated on the left, never on the right.
def twoColumn (left right : List Char) (columns : Nat) : List Char :=
  let separator := if left = [] then 0 else 1
  let left := left.take (columns - right.length - separator)
  left ++ spaces (columns - left.length - right.length) ++ right

def center (text : List Char) (width : Nat) : List Char :=
  let margin := width - text.length
  let left := margin / 2 + (margin % 2) * (width % 2)
  spaces left ++ text ++ spaces (margin - left)

def centre (text : List Char) (columns : Nat) : List Char :=
  rstrip (center (text.take columns) columns)

-- What an over-long word prints on lines of its own, and what is left of it.
def hardSplit (usable : Nat) (word : List Char) : List (List Char) × List Char :=
  if 0 < usable ∧ usable < word.length then
    let split := hardSplit usable (word.drop usable)
    (word.take usable :: split.1, split.2)
  else ([], word)
termination_by word.length
decreasing_by grind

structure Wrapping where
  out : List (List Char) := []
  current : List Char := []

def Wrapping.flushed (w : Wrapping) : List (List Char) :=
  if w.current = [] then w.out else w.out ++ [w.current]

def Wrapping.place (usable : Nat) (w : Wrapping) (word : List Char) : Wrapping :=
  let split := hardSplit usable word
  let w := if split.1 = [] then w else { out := w.flushed ++ split.1 }
  if w.current = [] then { w with current := split.2 }
  else if w.current.length + 1 + split.2.length ≤ usable then
    { w with current := w.current ++ ' ' :: split.2 }
  else { out := w.out ++ [w.current], current := split.2 }

def wrap (text : List Char) (columns indent : Nat) : List (List Char) :=
  let usable := max 1 (columns - indent)
  ((words text).foldl (Wrapping.place usable) {}).flushed.map (spaces indent ++ ·)

-- Each call of a layout helper puts one of these on the slip.
inductive Block where
  | blank
  | centre (text : List Char)
  | centreWrapped (text : List Char)
  | twoColumn (left right : List Char)
  | divider (char : Char)
  | wrap (text : List Char)
  | wrapIndented (text : List Char)

def Block.rows (columns : Nat) : Block → List (List Char)
  | .blank => [[]]
  | .centre text => [Escpos.centre text columns]
  | .centreWrapped text =>
      (Escpos.wrap text columns 0).map fun line => Escpos.centre (strip line) columns
  | .twoColumn left right => [Escpos.twoColumn left right columns]
  | .divider char => [List.replicate columns char]
  | .wrap text => Escpos.wrap text columns 0
  | .wrapIndented text => Escpos.wrap text columns 2

-- An optional text that is there and is not empty.
def given (text : Option String) : Option (List Char) :=
  (text.map String.toList).filter (· ≠ [])

def titled (title : String) (text : Option String) : List Block :=
  (given text).toList.map fun text => .centre (title.toList ++ text)

def beside (label : String) (text : Option String) : List Block :=
  (given text).toList.map (.twoColumn label.toList)

def money (document : ReceiptDocument) (cents : Cents) : List Char :=
  (formatMoney cents document.currency).toList

def isKitchen (document : ReceiptDocument) : Bool :=
  document.documentType = .kitchen

def headerBlocks (casefold : List Char → List Char) (header : ReceiptHeader) : List Block :=
  let franchise := header.franchiseName.filter fun name =>
    casefold (strip name.toList) ≠ casefold (strip header.tradingName.toList)
  titled "" franchise ++ [.centre header.tradingName.toList] ++ titled "" header.branchName ++
    [.centreWrapped (header.address.getD "").toList] ++ titled "Tel: " header.phone ++
      titled "VAT No: " header.vatNumber ++ titled "Reg No: " header.registrationNumber ++
        header.extraLines.map fun extra => .centre extra.toList

def bannerBlocks (document : ReceiptDocument) : List Block :=
  (if isKitchen document then [.blank, .centre "*** KITCHEN ***".toList]
    else if document.footer.showVatInvoiceLabel then [.blank, .centre "TAX INVOICE".toList]
    else []) ++
  (given document.banner).toList.flatMap fun banner =>
    [.blank, .centre ("*** ".toList ++ banner ++ " ***".toList)]

def stamp (issuedAt : List Char) : List Char :=
  (issuedAt.map fun c => if c = 'T' then ' ' else c).take 16

def metaBlocks (orderMeta : ReceiptMeta) : List Block :=
  [.centre ("Order ".toList ++ orderMeta.orderNumber.toList)] ++
    ((given orderMeta.issuedAt).toList.map fun issuedAt => .centre (stamp issuedAt)) ++
      beside "Type" orderMeta.orderType ++ beside "Table" orderMeta.tableNumber ++
        beside "Cashier" orderMeta.cashierName ++ beside "Customer" orderMeta.customerName

def label (line : ReceiptLine) : List Char :=
  (toString line.quantity).toList ++ " x ".toList ++ line.name.toList

def itemBlocks (document : ReceiptDocument) (line : ReceiptLine) : List Block :=
  let amount := money document line.amountCents
  if isKitchen document then [.wrap (label line)]
  else if (label line).length + amount.length + 1 ≤ document.columns then
    [.twoColumn (label line) amount]
  else [.wrap (label line), .twoColumn [] amount]

-- The amount that is printed beside a modifier, if any.
def priced (document : ReceiptDocument) (modifier : ReceiptLineModifier) : Option Cents :=
  if isKitchen document then none else modifier.amountCents.filter (· ≠ 0)

def modifierBlock (document : ReceiptDocument) (modifier : ReceiptLineModifier) : Block :=
  match priced document modifier with
  | some cents => .twoColumn ("  ".toList ++ modifier.label.toList) (money document cents)
  | none => .wrapIndented modifier.label.toList

def noteBlocks (note : Option String) : List Block :=
  (given note).toList.map fun note => .wrapIndented ("** ".toList ++ note)

def lineBlocks (document : ReceiptDocument) (line : ReceiptLine) : List Block :=
  itemBlocks document line ++ line.modifiers.map (modifierBlock document) ++ noteBlocks line.note

def reasonBlocks (reason : Option String) : List Block :=
  (given reason).toList.map fun reason => .wrap ("  (".toList ++ reason ++ ")".toList)

def discountBlocks (document : ReceiptDocument) (title : String) (cents : Cents)
    (reason : Option String) : List Block :=
  if cents = 0 then []
  else .twoColumn title.toList ('-' :: money document cents) :: reasonBlocks reason

def totalsBlocks (document : ReceiptDocument) : List Block :=
  let totals := document.totals
  [.divider '-', .twoColumn "Subtotal".toList (money document totals.subtotalCents)] ++
    discountBlocks document "Discount" totals.discountCents totals.discountReason ++
    discountBlocks document "Loyalty reward" totals.loyaltyDiscountCents
      totals.loyaltyRewardName ++
    (if totals.deliveryFeeCents = 0 then []
      else [.twoColumn "Delivery".toList (money document totals.deliveryFeeCents)]) ++
    ((vatLabel totals).toList.map fun label =>
      .twoColumn label.toList (money document totals.vatCents)) ++
    [.divider '-', .twoColumn "TOTAL".toList (money document totals.totalCents), .divider '=']

def allocationBlocks (allocation : ReceiptPaymentAllocation) : List Block :=
  [.twoColumn allocation.method.toList allocation.amountDisplay.toList] ++
    beside "  Cash tendered" allocation.cashTenderedDisplay ++
      beside "  Change" allocation.changeDueDisplay

def paidBlocks (document : ReceiptDocument) (title : String) (cents : Option Cents) :
    List Block :=
  cents.toList.map fun cents => .twoColumn title.toList (money document cents)

def paymentBlocks (document : ReceiptDocument) : List Block :=
  let payment := document.payment
  (match payment.allocations.getD [] with
    | [] => beside "Paid by" payment.method ++ paidBlocks document "Cash" payment.cashTenderedCents ++
        paidBlocks document "Change" payment.changeDueCents
    | allocations => allocations.flatMap allocationBlocks) ++
  paidBlocks document "Refunded" (payment.refundAmountCents.filter (· ≠ 0))

def footerBlocks (footer : ReceiptFooter) : List Block :=
  (given footer.message).toList.flatMap fun message => [.blank, .centreWrapped message]

def layout (casefold : List Char → List Char) (document : ReceiptDocument) : List Block :=
  headerBlocks casefold document.header ++ bannerBlocks document ++ [.divider '='] ++
    metaBlocks document.orderMeta ++ [.divider '-'] ++
      document.lines.flatMap (lineBlocks document) ++
        if isKitchen document then [.divider '=']
        else totalsBlocks document ++ paymentBlocks document ++ footerBlocks document.footer

def renderText (casefold : List Char → List Char) (document : ReceiptDocument) : List Char :=
  unlines ((layout casefold document).flatMap (Block.rows document.columns))

section Bytes

def escape : UInt8 := 0x1b

def groupSeparator : UInt8 := 0x1d

def lineFeed : UInt8 := 0x0a

namespace Command

def init : List UInt8 := [escape, 0x40]
def alignLeft : List UInt8 := [escape, 0x61, 0x00]
def alignCenter : List UInt8 := [escape, 0x61, 0x01]
def boldOn : List UInt8 := [escape, 0x45, 0x01]
def boldOff : List UInt8 := [escape, 0x45, 0x00]
def doubleHeightOn : List UInt8 := [groupSeparator, 0x21, 0x01]
def sizeNormal : List UInt8 := [groupSeparator, 0x21, 0x00]
def cut : List UInt8 := [groupSeparator, 0x56, 0x42, 0x03]
def drawerKick : List UInt8 := [escape, 0x70, 0x00, 0x32, 0xfa]
def qrModel : List UInt8 := [groupSeparator, 0x28, 0x6b, 0x04, 0x00, 0x31, 0x41, 0x32, 0x00]
def qrSize : List UInt8 := [groupSeparator, 0x28, 0x6b, 0x03, 0x00, 0x31, 0x43, 0x06]
def qrCorrection : List UInt8 := [groupSeparator, 0x28, 0x6b, 0x03, 0x00, 0x31, 0x45, 0x31]
def qrPrint : List UInt8 := [groupSeparator, 0x28, 0x6b, 0x03, 0x00, 0x31, 0x51, 0x30]

def qrStore (payload : List UInt8) : List UInt8 :=
  let length := payload.length + 3
  [groupSeparator, 0x28, 0x6b, UInt8.ofNat (length % 256), UInt8.ofNat (length / 256 % 256),
    0x31, 0x50, 0x30] ++ payload

end Command

-- The upper half of the default code page.
def cp437High : List Char :=
  ['Ç', 'ü', 'é', 'â', 'ä', 'à', 'å', 'ç', 'ê', 'ë', 'è', 'ï', 'î', 'ì', 'Ä', 'Å', 'É', 'æ',
    'Æ', 'ô', 'ö', 'ò', 'û', 'ù', 'ÿ', 'Ö', 'Ü', '¢', '£', '¥', '₧', 'ƒ', 'á', 'í', 'ó', 'ú',
    'ñ', 'Ñ', 'ª', 'º', '¿', '⌐', '¬', '½', '¼', '¡', '«', '»', '░', '▒', '▓', '│', '┤', '╡',
    '╢', '╖', '╕', '╣', '║', '╗', '╝', '╜', '╛', '┐', '└', '┴', '┬', '├', '─', '┼', '╞', '╟',
    '╚', '╔', '╩', '╦', '╠', '═', '╬', '╧', '╨', '╤', '╥', '╙', '╘', '╒', '╓', '╫', '╪', '┘',
    '┌', '█', '▄', '▌', '▐', '▀', 'α', 'ß', 'Γ', 'π', 'Σ', 'σ', 'µ', 'τ', 'Φ', 'Θ', 'Ω', 'δ',
    '∞', 'φ', 'ε', '∩', '≡', '±', '≥', '≤', '⌠', '⌡', '÷', '≈', '°', '∙', '·', '√', 'ⁿ', '²',
    '■', '\u00a0']

def cp437 (text : List Char) : List UInt8 :=
  text.map fun c =>
    if c.toNat < 128 then UInt8.ofNat c.toNat
    else match cp437High.idxOf? c with
      | some n => UInt8.ofNat (128 + n)
      | none => 0x3f

structure PrinterCapabilities where
  supportsCut : Bool := true
  supportsDrawer : Bool := true
  supportsQr : Bool := true
  supportsBold : Bool := true
  supportsDoubleHeight : Bool := true
  codepage : List Char → List UInt8 := cp437
  feedLinesBeforeCut : Int := 4

inductive Emphasis where
  | heading | total | plain
deriving DecidableEq

def emphasis (capabilities : PrinterCapabilities) (line : List Char) (index : Nat) : Emphasis :=
  let stripped := strip line
  let isOrderNumber := "Order ".toList.isPrefixOf stripped && index < 12
  let isBanner := "***".toList.isPrefixOf stripped && "***".toList.isSuffixOf stripped
  if isOrderNumber || isBanner then .heading
  else if "TOTAL".toList.isPrefixOf line && capabilities.supportsBold then .total
  else .plain

def optional (supported : Bool) (command : List UInt8) : List (InBand.Chunk UInt8) :=
  if supported then [.command command] else []

def lineChunks (capabilities : PrinterCapabilities) (line : List Char) (index : Nat) :
    List (InBand.Chunk UInt8) :=
  let encoded (text : List Char) : InBand.Chunk UInt8 := .text (capabilities.codepage text ++ [lineFeed])
  match emphasis capabilities line index with
  | .heading =>
      [.command Command.alignCenter] ++
        optional capabilities.supportsDoubleHeight Command.doubleHeightOn ++
        optional capabilities.supportsBold Command.boldOn ++ [encoded (strip line)] ++
        optional capabilities.supportsBold Command.boldOff ++
        [.command Command.sizeNormal, .command Command.alignLeft]
  | .total => [.command Command.boldOn, encoded line, .command Command.boldOff]
  | .plain => [encoded line]

def utf8 (text : List Char) : List UInt8 :=
  text.flatMap String.utf8EncodeChar

def qrChunks (capabilities : PrinterCapabilities) (document : ReceiptDocument) :
    List (InBand.Chunk UInt8) :=
  match given document.footer.qrData with
  | some data =>
      if capabilities.supportsQr then
        [.command Command.alignCenter, .command Command.qrModel, .command Command.qrSize,
          .command Command.qrCorrection, .command (Command.qrStore (utf8 data)),
          .command Command.qrPrint, .text [lineFeed], .command Command.alignLeft]
      else []
  | none => []

def chunks (casefold : List Char → List Char) (document : ReceiptDocument)
    (capabilities : PrinterCapabilities) (openDrawer : Bool) : List (InBand.Chunk UInt8) :=
  [.command Command.init] ++
    (lines (renderText casefold document)).zipIdx.flatMap
      (fun line => lineChunks capabilities line.1 line.2) ++
    qrChunks capabilities document ++
    [.text (List.replicate capabilities.feedLinesBeforeCut.toNat lineFeed)] ++
    optional (openDrawer && capabilities.supportsDrawer) Command.drawerKick ++
    optional capabilities.supportsCut Command.cut

def renderEscpos (casefold : List Char → List Char) (document : ReceiptDocument)
    (capabilities : PrinterCapabilities) (openDrawer : Bool) : List UInt8 :=
  InBand.stream (chunks casefold document capabilities openDrawer)

end Bytes

end NextgenBackend.Receipts.Escpos
