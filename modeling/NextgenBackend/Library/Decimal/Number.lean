import NextgenBackend.Library.Decimal
import NextgenBackend.Library.Text

namespace Decimal

inductive Number where
  | finite (value : ℚ)
  | infinite (negative : Bool)
  | nan (signaling : Bool)
deriving DecidableEq

inductive Raised where
  | invalidOperation
  | overflow
  | valueError (message : String)
  | overflowError (message : String)
deriving DecidableEq, Repr

structure Context where
  prec : ℕ
  emax : ℕ

def defaultContext : Context := ⟨28, 999999⟩

def asciiDigit (c : Char) : Bool :=
  '0' ≤ c && c ≤ '9'

def numericAsAscii (text : List Char) : Option (List Char) :=
  ((Text.strip text).filter (· ≠ '_')).mapM fun c =>
    if 0 < c.toNat ∧ c.toNat ≤ 127 then some c
    else if Text.isSpace c then some ' '
    else (Text.digitValue c).map fun d => Char.ofNat (48 + d)

def digitsValue (digits : List Char) : ℕ :=
  digits.foldl (fun value c => 10 * value + (c.toNat - 48)) 0

def natural (digits : List Char) : Option ℕ :=
  if digits ≠ [] ∧ digits.all asciiDigit then some (digitsValue digits) else none

def readSign : List Char → Bool × List Char
  | '-' :: cs => (true, cs)
  | '+' :: cs => (false, cs)
  | cs => (false, cs)

def readExponent : List Char → Option ℤ
  | [] => some 0
  | c :: cs =>
      if c = 'e' ∨ c = 'E' then
        (natural (readSign cs).2).map fun n => if (readSign cs).1 then -n else n
      else none

def readFraction : List Char → List Char × List Char
  | '.' :: cs => (cs.takeWhile asciiDigit, cs.dropWhile asciiDigit)
  | cs => ([], cs)

-- The coefficient and the exponent of a numeral.
def readNumeral (cs : List Char) : Option (ℕ × ℤ) := do
  let whole := cs.takeWhile asciiDigit
  let (fraction, rest) := readFraction (cs.dropWhile asciiDigit)
  if whole = [] ∧ fraction = [] then none
  else
    let exponent ← readExponent rest
    some (digitsValue (whole ++ fraction), exponent - fraction.length)

def readSpecial (negative : Bool) (cs : List Char) : Option Number :=
  let lower := cs.map Char.toLower
  if lower = "inf".toList ∨ lower = "infinity".toList then some (.infinite negative)
  else if "nan".toList <+: lower ∧ (lower.drop 3).all asciiDigit then some (.nan false)
  else if "snan".toList <+: lower ∧ (lower.drop 4).all asciiDigit then some (.nan true)
  else none

-- The bounds within which a numeral is kept as it is written.
def maxEmax : ℤ := 999999999999999999

def minEtiny : ℤ := -1999999999999999997

def readFinite (negative : Bool) (cs : List Char) : Option Number := do
  let (coefficient, exponent) ← readNumeral cs
  if exponent + Nat.log 10 coefficient ≤ maxEmax ∧ minEtiny ≤ exponent then
    some (.finite ((if negative then -1 else 1) * coefficient * 10 ^ exponent))
  else none

def parse (text : List Char) : Option Number := do
  let ascii ← numericAsAscii text
  let (negative, body) := readSign ascii
  readSpecial negative body <|> readFinite negative body

namespace Number

-- A subnormal keeps more digits here than the context would: none of them is a whole one.
def rounded (context : Context) (x : ℚ) : Except Raised Number :=
  if context.emax < Int.log 10 |fix context.prec x| then .error .overflow
  else .ok (.finite (fix context.prec x))

def mul (context : Context) : Number → Number → Except Raised Number
  | .nan true, _ | _, .nan true => .error .invalidOperation
  | .nan false, _ | _, .nan false => .ok (.nan false)
  | .infinite a, .infinite b => .ok (.infinite (a != b))
  | .infinite a, .finite y | .finite y, .infinite a =>
      if y = 0 then .error .invalidOperation else .ok (.infinite (a != decide (y < 0)))
  | .finite x, .finite y => rounded context (x * y)

-- Quantizing to a unit exponent.
def quantize (context : Context) : Number → Except Raised Number
  | .nan true | .infinite _ => .error .invalidOperation
  | .nan false => .ok (.nan false)
  | .finite x =>
      match quantizeHalfUp context.prec x with
      | some n => .ok (.finite n)
      | none => .error .invalidOperation

def quantizeHalfEven (context : Context) : Number → Except Raised Number
  | .nan true | .infinite _ => .error .invalidOperation
  | .nan false => .ok (.nan false)
  | .finite x =>
      if |roundHalfEven x| < 10 ^ context.prec then .ok (.finite (roundHalfEven x))
      else .error .invalidOperation

def toInt : Number → Except Raised ℤ
  | .finite x => .ok (if 0 ≤ x then ⌊x⌋ else ⌈x⌉)
  | .nan _ => .error (.valueError "cannot convert NaN to integer")
  | .infinite _ => .error (.overflowError "cannot convert Infinity to integer")

def abs (context : Context) : Number → Except Raised Number
  | .nan true => .error .invalidOperation
  | .nan false => .ok (.nan false)
  | .infinite _ => .ok (.infinite false)
  | .finite x => rounded context |x|

def isZero : Number → Except Raised Bool
  | .nan true => .error .invalidOperation
  | .nan false | .infinite _ => .ok false
  | .finite x => .ok (x = 0)

def isNegative : Number → Except Raised Bool
  | .nan _ => .error .invalidOperation
  | .infinite negative => .ok negative
  | .finite x => .ok (x < 0)

-- Quantized and made an integer.
def toWhole (context : Context) (number : Number) : Except Raised ℤ := do
  let whole ← number.quantize context
  whole.toInt

-- The magnitudes that round to no more digits than the context has.
def Holds (context : Context) (x : ℚ) : Prop :=
  |x| < 10 ^ context.prec - 1 / 2

instance (context : Context) (x : ℚ) : Decidable (Holds context x) :=
  inferInstanceAs (Decidable (_ < _))

def Signals {α : Type} (result : Except Raised α) : Prop :=
  result = .error .invalidOperation ∨ result = .error .overflow

variable {context : Context} {x y : ℚ} {j : ℕ}

theorem holds_iff : Holds context x ↔ |roundHalfUp x| < 10 ^ context.prec := by
  rw [abs_roundHalfUp_lt]
  push_cast
  rfl

theorem toWhole_finite :
    toWhole context (.finite x) =
      if Holds context x then .ok (roundHalfUp x) else .error .invalidOperation := by
  unfold toWhole quantize quantizeHalfUp
  by_cases h : |roundHalfUp x| < 10 ^ context.prec
  · simp only [h, if_true, if_pos (holds_iff.mpr h)]
    change toInt (.finite (roundHalfUp x)) = _
    simp [toInt]
  · simp only [h, if_false, if_neg (mt holds_iff.mp h)]
    rfl

theorem holds_fix (hprec : 0 < context.prec) :
    Holds context (fix context.prec x * 10 ^ j) ↔ Holds context (x * 10 ^ j) := by
  have hscale (y : ℚ) : Holds context (y * 10 ^ j) ↔
      |y| < 10 ^ ((context.prec : ℤ) - j) - 10 ^ ((context.prec : ℤ) - j - context.prec) / 2 := by
    have hj : (0 : ℚ) < 10 ^ j := by positivity
    have hhalf : (10 : ℚ) ^ ((context.prec : ℤ) - j - context.prec) = (10 ^ j)⁻¹ := by
      rw [← zpow_natCast, ← zpow_neg]
      congr 1
      omega
    rw [Holds, abs_mul, abs_of_pos hj, ← lt_div_iff₀ hj, hhalf, zpow_sub₀ (by norm_num),
      zpow_natCast, zpow_natCast, sub_div, one_div, div_eq_mul_inv 2⁻¹, div_eq_mul_inv _ (2 : ℚ),
      mul_comm (2⁻¹ : ℚ)]
  rw [hscale, hscale, abs_fix_lt hprec]

theorem rounded_of_holds (hprec : 0 < context.prec) (hemax : context.prec ≤ context.emax)
    (h : Holds context x) : rounded context x = .ok (.finite (fix context.prec x)) := by
  refine if_neg (not_lt.mpr ?_)
  by_cases hzero : fix context.prec x = 0
  · rw [hzero]
    simp
  have hfix : Holds context (fix context.prec x) := by
    simpa using (holds_fix (j := 0) hprec).mpr (by simpa using h)
  have hlt : |fix context.prec x| < 10 ^ (context.prec : ℤ) := by
    rw [Holds] at hfix
    rw [zpow_natCast]
    linarith
  have hlog := log_lt hzero hlt
  omega

theorem rounded_cases (x : ℚ) :
    rounded context x = .ok (.finite (fix context.prec x)) ∨
      rounded context x = .error .overflow := by
  unfold rounded
  split
  · exact .inr rfl
  · exact .inl rfl

theorem rounded_toWhole (hprec : 0 < context.prec) (hemax : context.prec ≤ context.emax)
    (h : Holds context x) :
    (rounded context x >>= toWhole context) = .ok (roundHalfUp (fix context.prec x)) := by
  have hfix : Holds context (fix context.prec x) := by
    simpa using (holds_fix (j := 0) hprec).mpr (by simpa using h)
  rw [rounded_of_holds hprec hemax h]
  change toWhole context (.finite (fix context.prec x)) = _
  rw [toWhole_finite, if_pos hfix]

theorem rounded_signals (hprec : 0 < context.prec) (h : ¬ Holds context x) :
    Signals (rounded context x >>= toWhole context) := by
  rcases rounded_cases x with hok | hover
  · have hfix : ¬ Holds context (fix context.prec x) := by
      simpa using mt (holds_fix (j := 0) hprec).mp (by simpa using h)
    rw [hok]
    refine .inl ?_
    change toWhole context (.finite (fix context.prec x)) = _
    rw [toWhole_finite, if_neg hfix]
  · rw [hover]
    exact .inr rfl

-- A product is rounded once more when a power of ten scales it.
def scaled (context : Context) (number : Number) (factor : ℚ) (j : ℕ) :
    Except Raised Number := do
  let product ← number.mul context (.finite factor)
  product.mul context (.finite (10 ^ j))

theorem scaled_toWhole (hprec : 0 < context.prec) (hemax : context.prec ≤ context.emax)
    (h : Holds context (x * y * 10 ^ j)) :
    (scaled context (.finite x) y j >>= toWhole context) =
      .ok (roundHalfUp (fix context.prec (fix context.prec (x * y) * 10 ^ j))) := by
  have hone : (1 : ℚ) ≤ 10 ^ j := one_le_pow₀ (by norm_num)
  have hproduct : Holds context (x * y) := by
    rw [Holds, abs_mul (x * y), abs_of_nonneg (by positivity : (0 : ℚ) ≤ 10 ^ j)] at h
    exact lt_of_le_of_lt (le_mul_of_one_le_right (abs_nonneg _) hone) h
  change ((rounded context (x * y) >>= fun z => z.mul context (.finite (10 ^ j))) >>= _) = _
  rw [rounded_of_holds hprec hemax hproduct]
  exact rounded_toWhole hprec hemax ((holds_fix hprec).mpr h)

theorem scaled_signals (hprec : 0 < context.prec) (h : ¬ Holds context (x * y * 10 ^ j)) :
    Signals (scaled context (.finite x) y j >>= toWhole context) := by
  change Signals ((rounded context (x * y) >>= fun z => z.mul context (.finite (10 ^ j))) >>= _)
  rcases rounded_cases (x * y) with hok | hover
  · rw [hok]
    exact rounded_signals hprec (mt (holds_fix hprec).mp h)
  · rw [hover]
    exact .inr rfl

-- What multiplying an infinity comes to: no quantizing makes it whole.
def Boundless (result : Except Raised Number) : Prop :=
  result = .error .invalidOperation ∨ ∃ negative, result = .ok (.infinite negative)

theorem infinite_mul (negative : Bool) :
    Boundless (mul context (.infinite negative) (.finite y)) := by
  change Boundless (if y = 0 then .error .invalidOperation else .ok (.infinite _))
  split
  · exact .inl rfl
  · exact .inr ⟨_, rfl⟩

theorem Boundless.mul {result : Except Raised Number} (h : Boundless result) :
    Boundless (result >>= fun number => number.mul context (.finite y)) := by
  rcases h with rfl | ⟨negative, rfl⟩
  · exact .inl rfl
  · change Boundless (Number.mul context (.infinite negative) (.finite y))
    exact infinite_mul negative

theorem Boundless.signals {result : Except Raised Number} (h : Boundless result) :
    Signals (result >>= toWhole context) := by
  rcases h with rfl | ⟨negative, rfl⟩ <;> exact .inl rfl

end Number

end Decimal
