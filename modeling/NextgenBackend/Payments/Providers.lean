import NextgenBackend.Core.Session
import NextgenBackend.Library.Text.Percent
import NextgenBackend.Shared.Pricing

namespace NextgenBackend.Payments

inductive Json where
  | null
  | bool (b : Bool)
  | num (n : Int)
  | str (s : String)
  | arr (items : List Json)
  | obj (fields : List (String × Json))
deriving Repr

def Json.get? (body : Json) (name : String) : Except Failure (Option Json) :=
  match body with
  | .obj fields => .ok (fields.lookup name)
  | _ => .error .unhandled

def Json.truthy : Json → Bool
  | .null => false
  | .bool b => b
  | .num n => n ≠ 0
  | .str s => s ≠ ""
  | .arr items => !items.isEmpty
  | .obj fields => !fields.isEmpty

def Json.isText (value : Option Json) (expected : String) : Bool :=
  match value with
  | some (.str s) => s = expected
  | _ => false

-- Containers and booleans never spell a UUID or the reference prefix.
def Json.text : Json → String
  | .str s => s
  | .num n => toString n
  | _ => ""

def Json.int? : Json → Option Int
  | .num n => some n
  | .bool b => some (if b then 1 else 0)
  | _ => none

mutual

def Json.beq : Json → Json → Bool
  | .null, .null => true
  | .bool b, .bool b' => b = b'
  | .num n, .num n' => n = n'
  | .str s, .str s' => s = s'
  | .arr items, .arr items' => Json.beqItems items items'
  | .obj fields, .obj fields' => Json.beqFields fields fields'
  | _, _ => false

def Json.beqItems : List Json → List Json → Bool
  | [], [] => true
  | x :: xs, y :: ys => Json.beq x y && Json.beqItems xs ys
  | _, _ => false

def Json.beqFields : List (String × Json) → List (String × Json) → Bool
  | [], [] => true
  | (name, x) :: xs, (name', y) :: ys => name = name' && Json.beq x y && Json.beqFields xs ys
  | _, _ => false

end

def upper (s : String) : String :=
  String.ofList (s.toList.map Char.toUpper)

def hexDigit (c : Char) : Option Nat :=
  if '0' ≤ c ∧ c ≤ '9' then some (c.toNat - '0'.toNat)
  else if 'a' ≤ c ∧ c ≤ 'f' then some (c.toNat - 'a'.toNat + 10)
  else if 'A' ≤ c ∧ c ≤ 'F' then some (c.toNat - 'A'.toNat + 10)
  else none

def parseUuid (text : String) : Option Uuid :=
  let digits := text.toList.filter (· ≠ '-')
  if digits.length = 32 then
    (digits.mapM hexDigit).map fun ds => ds.foldl (fun n d => 16 * n + d) 0
  else none

def posIntentPrefix : String := "pos_intent:"

inductive Signature where
  | hmacBody (secret : String) (body : Option Json)
  | hmacCallback (secret : String) (businessId : Uuid) (body : Json)
  | md5 (signature : PayFastSignature)
  | text (s : String)

structure JsonDelivery where
  body : Option Json
  signature : Signature

structure FormDelivery where
  form : Option (List (String × String))
  signature : Option Signature

def sameBody : Option Json → Option Json → Bool
  | none, none => true
  | some body, some body' => body.beq body'
  | _, _ => false

structure WebhookResult where
  paid : Bool
  orderId : Option Json
  reference : Option Json
  amountCents : Option Int
  currency : Option Json

def verifyBodySignature (delivery : JsonDelivery) (secret : String) : Bool :=
  match delivery.signature with
  | .hmacBody key body => secret ≠ "" && key = secret && sameBody body delivery.body
  | _ => false

namespace Yoco

def handleWebhook (payload : Json) : Except Failure WebhookResult := do
  let eventType ← payload.get? "type"
  let inner ← payload.get? "payload"
  let inner := inner.getD (.obj [])
  let status ← inner.get? "status"
  let metadata ← inner.get? "metadata"
  let orderId ← (metadata.getD (.obj [])).get? "orderId"
  let reference ← inner.get? "id"
  let amount ← inner.get? "amount"
  let currency ← inner.get? "currency"
  pure
    { paid := (Json.isText eventType "checkout.completed" ||
        Json.isText eventType "payment.succeeded") && Json.isText status "successful"
      orderId := orderId
      reference := reference
      amountCents := amount.bind Json.int?
      currency := currency }

def verifySignature (business : Business) (delivery : JsonDelivery) : Bool :=
  verifyBodySignature delivery (business.paymentWebhookSecret.getD "")

end Yoco

namespace IKhoka

def handleWebhook (payload : Json) : Except Failure WebhookResult := do
  let status ← payload.get? "status"
  let responseCode ← payload.get? "responseCode"
  let orderId ← payload.get? "externalTransactionID"
  let reference ← payload.get? "paylinkID"
  pure
    { paid := Json.isText status "SUCCESS" && Json.isText responseCode "00"
      orderId := orderId
      reference := reference
      amountCents := none
      currency := none }

def verifySignature (business : Business) (delivery : JsonDelivery) : Bool :=
  let appSecret := business.paymentApiSecret.getD ""
  match delivery.signature, delivery.body with
  | .hmacCallback key businessId signed, some body =>
      appSecret ≠ "" && key = appSecret && businessId = business.id && signed.beq body
  | _, _ => false

end IKhoka

namespace Stitch

def statusType (status : Option Json) : Except Failure (Option Json) :=
  match status with
  | none => .ok none
  | some (.obj fields) => .ok (fields.lookup "type")
  | some status => .ok (some (.str status.text))

def handleWebhook (payload : Json) : Except Failure WebhookResult := do
  let eventType ← payload.get? "type"
  let data ← payload.get? "data"
  let data := data.getD (.obj [])
  let orderId ← data.get? "externalReference"
  let status ← data.get? "status"
  let statusType ← statusType status
  let reference ← data.get? "id"
  pure
    { paid := Json.isText eventType "payment_initiation_request.complete" &&
        Json.isText statusType "Completed"
      orderId := orderId
      reference := reference
      amountCents := none
      currency := none }

def verifySignature (business : Business) (delivery : JsonDelivery) : Bool :=
  verifyBodySignature delivery (business.paymentApiKey.getD "")

end Stitch

namespace PayFast

inductive DecimalText where
  | finite (mantissa : Int) (exponent : Int)
  | infinite
  | invalid

def naturalText (cs : List Char) : Option Nat :=
  if cs ≠ [] ∧ cs.all Char.isDigit then
    some (cs.foldl (fun n c => 10 * n + (c.toNat - '0'.toNat)) 0)
  else none

def integerText : List Char → Option Int
  | '-' :: cs => (naturalText cs).map fun n => -(n : Int)
  | '+' :: cs => (naturalText cs).map Int.ofNat
  | cs => (naturalText cs).map Int.ofNat

def unsignedDecimal (cs : List Char) : DecimalText :=
  let coefficient := cs.takeWhile fun c => c ≠ 'e' ∧ c ≠ 'E'
  let whole := coefficient.takeWhile (· ≠ '.')
  let fraction := (coefficient.drop whole.length).drop 1
  let exponent :=
    if coefficient.length = cs.length then some 0
    else integerText (cs.drop (coefficient.length + 1))
  match naturalText (whole ++ fraction), exponent with
  | some n, some e => .finite n (e - fraction.length)
  | _, _ =>
      let lower := cs.map Char.toLower
      if lower = "inf".toList ∨ lower = "infinity".toList then .infinite else .invalid

def parseDecimal (raw : String) : DecimalText :=
  let cs := (raw.trimAscii.toString.toList).filter (· ≠ '_')
  match cs with
  | '-' :: cs =>
      match unsignedDecimal cs with
      | .finite n e => .finite (-n) e
      | other => other
  | '+' :: cs => unsignedDecimal cs
  | cs => unsignedDecimal cs

def randAmountToCents (raw : Option String) : Except Failure (Option Int) :=
  match raw.map parseDecimal with
  | some (.finite n e) =>
      .ok (some (Pricing.roundHalfUp (n * 100 * 10 ^ e.toNat) (10 ^ (-e).toNat)))
  | some .infinite => .error .unhandled
  | some .invalid | none => .ok none

def handleWebhook (params : List (String × String)) : Except Failure WebhookResult := do
  let amount ← randAmountToCents (params.lookup "amount_gross")
  pure
    { paid := params.lookup "payment_status" = some "COMPLETE"
      orderId := (params.lookup "m_payment_id").map .str
      reference := (params.lookup "pf_payment_id").map .str
      amountCents := amount
      currency := some (.str "ZAR") }

def sortParams (params : List (String × String)) : List (String × String) :=
  params.mergeSort fun a b => a.1 ≤ b.1

-- The keys stand as they are; only the values are encoded.
def pairText (entry : String × String) : List Char :=
  entry.1.toList ++ '=' :: Percent.quotePlus entry.2

def pairsText (params : List (String × String)) : List Char :=
  ['&'].intercalate ((sortParams params).map pairText)

def passphraseText (passphrase : Option String) : List Char :=
  match passphrase.filter (· ≠ "") with
  | none => []
  | some passphrase => "&passphrase=".toList ++ Percent.quotePlus passphrase

def baseString (params : List (String × String)) (passphrase : Option String) : String :=
  String.ofList (pairsText params ++ passphraseText passphrase)

def buildSignature (params : List (String × String)) (passphrase : Option String) :
    PayFastSignature where
  baseString := baseString params passphrase

def verifySignature (params : List (String × String)) (signature : Option Signature)
    (passphrase : Option String) : Bool :=
  match passphrase, signature with
  | some passphrase, some (.md5 signature) =>
      passphrase ≠ "" && signature = buildSignature params (some passphrase)
  | _, _ => false

end PayFast

structure Settings where
  paymentReturnUrl : String
  paymentCancelUrl : String
  backendPublicUrl : String

def hexText (digits n : Nat) : String :=
  String.ofList (List.replicate (digits - (Nat.toDigits 16 n).length) '0' ++ Nat.toDigits 16 n)

def uuidText (id : Uuid) : String :=
  "-".intercalate
    [hexText 8 (id / 16 ^ 24), hexText 4 (id / 16 ^ 20 % 16 ^ 4), hexText 4 (id / 16 ^ 16 % 16 ^ 4),
      hexText 4 (id / 16 ^ 12 % 16 ^ 4), hexText 12 (id % 16 ^ 12)]

def resolveAmountAndReference (order : Option Order) (amountCents : Option Cents)
    (externalReference : Option String) : Except Failure (Cents × String) :=
  match order with
  | some order =>
      .ok (amountCents.getD order.totalCents, externalReference.getD (uuidText order.id))
  | none =>
      match amountCents, externalReference with
      | some amountCents, some externalReference => .ok (amountCents, externalReference)
      | _, _ => .error .unhandled

def credential (column : Option String) : Option String :=
  column.filter (· ≠ "")

namespace PayFast

def linkParams (settings : Settings) (merchantId merchantKey : String) (business : Business)
    (order : Option Order) (amountCents : Cents) (reference : String) : List (String × String) :=
  [("merchant_id", merchantId),
    ("merchant_key", merchantKey),
    ("return_url", settings.paymentReturnUrl),
    ("cancel_url", settings.paymentCancelUrl),
    ("notify_url",
      settings.backendPublicUrl ++ "/v1/payments/webhooks/payfast/" ++ uuidText business.id),
    ("amount", Pricing.randText amountCents),
    ("item_name", order.elim "POS payment" fun order => "Order " ++ order.orderNumber),
    ("m_payment_id", reference),
    ("email_confirmation", "1")]

def createPaymentLink (settings : Settings) (business : Business) (order : Option Order)
    (amountCents : Option Cents) (externalReference : Option String) :
    Except Failure (Option PaymentLink) :=
  match credential business.paymentApiKey, credential business.paymentApiSecret with
  | some merchantKey, some merchantId => do
      let (amountCents, reference) ←
        resolveAmountAndReference order amountCents externalReference
      let params := linkParams settings merchantId merchantKey business order amountCents reference
      pure (some (.payfast params (buildSignature params business.paymentWebhookSecret)))
  | _, _ => .ok none

end PayFast

-- `hostedUrl` is what the provider's own API answers.
def createPaymentLink (settings : Settings) (hostedUrl : Option String) (providerName : String)
    (business : Business) (order : Option Order) (amountCents : Option Cents)
    (externalReference : Option String) : Except Failure (Option PaymentLink) :=
  match upper providerName with
  | "PAYFAST" => PayFast.createPaymentLink settings business order amountCents externalReference
  | "YOCO" =>
      match credential business.paymentApiKey with
      | some _ => do
          let _ ← resolveAmountAndReference order amountCents externalReference
          pure ((credential hostedUrl).map .hosted)
      | none => .ok none
  | "IKHOKA" | "STITCH" =>
      match credential business.paymentApiKey, credential business.paymentApiSecret, order with
      | some _, some _, some _ => .ok ((credential hostedUrl).map .hosted)
      | some _, some _, none => .error .unhandled
      | _, _, _ => .ok none
  | "MOCK" => do
      let (_, reference) ← resolveAmountAndReference order amountCents externalReference
      pure (some (.hosted ("https://pay.mock.test/checkout/" ++
        order.elim reference (·.orderNumber))))
  | _ => .ok none

end NextgenBackend.Payments
