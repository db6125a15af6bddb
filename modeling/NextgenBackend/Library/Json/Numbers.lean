import Mathlib
import NextgenBackend.Library.Binary64
import NextgenBackend.Library.Decimal.Number
import NextgenBackend.Library.Json.RoundTrip

-- The numbers of JSON texts: integers of any size, and doubles, which are written with the fewest
-- digits that are read as the same double.
namespace Json

inductive Double where
  | finite (negative : Bool) (size : ℚ)
  | infinite (negative : Bool)
  | nan
deriving DecidableEq

namespace Double

-- The distance between doubles of this size, which is never below the smallest of them.
def spacing (x : ℚ) : ℚ := max (Binary64.ulp x) (2 ^ (-1074 : ℤ))

def rounded (x : ℚ) : ℚ := Decimal.roundHalfEven (x / spacing x) * spacing x

def ofDecimal (negative : Bool) (x : ℚ) : Double :=
  if 2 ^ 1024 ≤ rounded x then .infinite negative else .finite negative (rounded x)

def decimal (d : ℕ × ℤ) : ℚ := d.1 * 10 ^ d.2

-- The decimals of so many digits just below and just above a number.
def nearby (x : ℚ) (digits : ℕ) : List (ℕ × ℤ) :=
  let exponent := Int.log 10 x + 1 - digits
  let coefficient := ⌊x / 10 ^ exponent⌋.toNat
  [(coefficient, exponent), (coefficient + 1, exponent)]

def reading (x : ℚ) (digits : ℕ) : List (ℕ × ℤ) :=
  (nearby x digits).filter fun d => d.1 ≠ 0 ∧ rounded (decimal d) = x

-- The closer of two decimals that are read as the number, the even one of two as close.
def closest (x : ℚ) : List (ℕ × ℤ) → Option (ℕ × ℤ)
  | [below, above] =>
      let low := x - decimal below
      let high := decimal above - x
      if low < high ∨ low = high ∧ below.1 % 2 = 0 then some below else some above
  | decimals => decimals.head?

-- Seventeen digits tell any two doubles apart: only zero has no shortest decimal.
def shortest (x : ℚ) : Option (ℕ × ℤ) :=
  (List.range 17).findSome? fun n => closest x (reading x (n + 1))

def exponentText (e : ℤ) : List Char :=
  let digits := Nat.toDigits 10 e.natAbs
  (if e < 0 then '-' else '+') :: if e.natAbs < 10 then '0' :: digits else digits

-- Digits with the decimal point after so many of them.
def layout (digits : List Char) (point : ℤ) : List Char :=
  if -4 < point ∧ point ≤ 16 then
    if point ≤ 0 then '0' :: '.' :: (List.replicate (-point).toNat '0' ++ digits)
    else if digits.length ≤ point.toNat then
      digits ++ List.replicate (point.toNat - digits.length) '0' ++ ['.', '0']
    else digits.take point.toNat ++ '.' :: digits.drop point.toNat
  else
    (if digits.length ≤ 1 then digits else digits.take 1 ++ '.' :: digits.drop 1) ++
      'e' :: exponentText (point - 1)

def sizeText (x : ℚ) : List Char :=
  match shortest x with
  | none => ['0', '.', '0']
  | some (coefficient, exponent) =>
      let digits := Nat.toDigits 10 coefficient
      layout (digits.rdropWhile (· = '0')) (digits.length + exponent)

end Double

inductive Number where
  | int (n : ℤ)
  | float (x : Double)
deriving DecidableEq

def signed (negative : Bool) (text : List Char) : List Char :=
  if negative then '-' :: text else text

def numberValue (lexeme : List Char) : Number :=
  let (negative, rest) := Decimal.readSign lexeme
  if isInteger lexeme then
    .int (if negative then -Decimal.digitsValue rest else Decimal.digitsValue rest)
  else
    let (coefficient, exponent) := (Decimal.readNumeral rest).getD (0, 0)
    .float (.ofDecimal negative (coefficient * 10 ^ exponent))

def Number.tree : Number → Tree
  | .int n => .number (signed (n < 0) (Nat.toDigits 10 n.natAbs))
  | .float (.finite negative size) => .number (signed negative (Double.sizeText size))
  | .float (.infinite false) => .literal .infinity
  | .float (.infinite true) => .literal .minusInfinity
  | .float .nan => .literal .nan

section Written

variable {c : Char} {cs digits : List Char} {s : NumberState} {x : ℚ} {n : ℕ}

def IsDigits (digits : List Char) : Prop := ∀ c ∈ digits, c.isDigit

-- Digits that a number may begin with.
structure Leading (digits : List Char) : Prop where
  all : IsDigits digits
  nonzero : ∃ c cs, digits = c :: cs ∧ c ≠ '0'

theorem isDigits_toDigits : IsDigits (Nat.toDigits 10 n) :=
  fun _ h => Nat.isDigit_of_mem_toDigits (by decide) (by decide) h

theorem leading_toDigits (h : n ≠ 0) : Leading (Nat.toDigits 10 n) := by
  refine ⟨isDigits_toDigits, ?_⟩
  induction n using Nat.strong_induction_on with
  | _ n ih =>
    rcases lt_or_ge n 10 with hlt | hge
    · refine ⟨n.digitChar, [], Nat.toDigits_of_lt_base hlt, fun hzero => ?_⟩
      interval_cases n <;> first | exact h rfl | cases hzero
    · obtain ⟨c, cs, hrest, hc⟩ := ih (n / 10) (Nat.div_lt_self (by omega) (by decide))
        (Nat.div_pos hge (by decide)).ne'
      refine ⟨c, cs ++ [(n % 10).digitChar], ?_, hc⟩
      rw [Nat.toDigits_of_base_le (by decide) hge, hrest]
      rfl

theorem leading_rdropWhile (h : Leading digits) : Leading (digits.rdropWhile (· = '0')) := by
  obtain ⟨hdigits, c, cs, rfl, hc⟩ := h
  refine ⟨fun d hd => hdigits d ((List.rdropWhile_prefix _ _).subset hd), ?_⟩
  have hne : (c :: cs).rdropWhile (· = '0') ≠ [] := by
    intro hnil
    have hall := List.rdropWhile_eq_nil_iff.mp hnil c List.mem_cons_self
    exact hc (of_decide_eq_true hall)
  obtain ⟨d, ds, hds⟩ := List.exists_cons_of_ne_nil hne
  have hprefix := List.rdropWhile_prefix (fun c => decide (c = '0')) (c :: cs)
  rw [hds] at hprefix
  obtain ⟨rest, hrest⟩ := hprefix
  obtain rfl : d = c := (List.cons.inj hrest).1
  exact ⟨d, ds, hds, hc⟩

theorem foldlM_digits (hs : ∀ c : Char, c.isDigit → s.step c = some s) (h : IsDigits digits) :
    digits.foldlM NumberState.step s = some s := by
  induction digits with
  | nil => rfl
  | cons c cs ih =>
      obtain ⟨hc, hcs⟩ := List.forall_mem_cons.mp h
      rw [List.foldlM_cons, hs c hc]
      exact ih hcs

theorem whole_step (c : Char) (h : c.isDigit) : NumberState.whole.step c = some .whole := if_pos h

theorem fraction_step (c : Char) (h : c.isDigit) :
    NumberState.fraction.step c = some .fraction := if_pos h

theorem expDigits_step (c : Char) (h : c.isDigit) :
    NumberState.expDigits.step c = some .expDigits := if_pos h

theorem foldlM_append_some {cs' : List Char} {s' : NumberState}
    (h : cs.foldlM NumberState.step s = some s') :
    (cs ++ cs').foldlM NumberState.step s = cs'.foldlM NumberState.step s' := by
  rw [List.foldlM_append, h]
  rfl

theorem foldlM_point (h : IsDigits digits) (hne : digits ≠ []) :
    digits.foldlM NumberState.step .point = some .fraction := by
  obtain ⟨c, cs, rfl⟩ := List.exists_cons_of_ne_nil hne
  obtain ⟨hc, hcs⟩ := List.forall_mem_cons.mp h
  rw [List.foldlM_cons, show NumberState.point.step c = some .fraction from if_pos hc]
  exact foldlM_digits fraction_step hcs

theorem begin_leading (h : c.isDigit) (hzero : c ≠ '0') : NumberState.begin c = some .whole := by
  have hminus : c ≠ '-' := by
    rintro rfl
    cases h
  unfold NumberState.begin
  split
  · exact absurd rfl hminus
  · exact absurd rfl hzero
  · exact if_pos h

theorem numberState_leading (h : Leading digits) : numberState digits = some .whole := by
  obtain ⟨hdigits, c, cs, rfl, hzero⟩ := h
  obtain ⟨hc, hcs⟩ := List.forall_mem_cons.mp hdigits
  rw [numberState, begin_leading hc hzero]
  exact foldlM_digits whole_step hcs

theorem numberState_append {cs' : List Char} (h : numberState cs = some s) :
    numberState (cs ++ cs') = cs'.foldlM NumberState.step s := by
  cases cs with
  | nil => cases h
  | cons c cs =>
      obtain ⟨first, hbegin, hrest⟩ := Option.bind_eq_some_iff.mp h
      rw [List.cons_append, numberState, hbegin]
      exact foldlM_append_some hrest

theorem isNumber_of_state (h : numberState cs = some s) (haccepts : s.accepts) : isNumber cs := by
  rw [isNumber, h]
  exact haccepts

-- A sign changes nothing about what may follow it.
theorem isNumber_signed (negative : Bool) (h : isNumber (c :: cs)) (hc : c.isDigit) :
    isNumber (signed negative (c :: cs)) := by
  cases negative with
  | false => exact h
  | true =>
      have hbegin : NumberState.minus.step c = NumberState.begin c := by
        rcases eq_or_ne c '0' with rfl | hzero
        · rfl
        · rw [begin_leading hc hzero]
          exact (if_neg hzero).trans (if_pos hc)
      have hstate : numberState ('-' :: c :: cs) = numberState (c :: cs) := by
        change (NumberState.minus.step c).bind _ = _
        rw [hbegin]
        rfl
      change isNumber ('-' :: c :: cs)
      rw [isNumber, hstate]
      exact h

theorem foldlM_exponentText (e : ℤ) :
    (Double.exponentText e).foldlM NumberState.step .exp = some .expDigits := by
  have hsign (negative : Prop) [Decidable negative] :
      NumberState.exp.step (if negative then '-' else '+') = some .expSign := by
    split <;> rfl
  have hdigits (digits : List Char) (h : IsDigits digits) (hne : digits ≠ []) :
      digits.foldlM NumberState.step .expSign = some .expDigits := by
    obtain ⟨c, cs, rfl⟩ := List.exists_cons_of_ne_nil hne
    obtain ⟨hc, hcs⟩ := List.forall_mem_cons.mp h
    rw [List.foldlM_cons, show NumberState.expSign.step c = some .expDigits from if_pos hc]
    exact foldlM_digits expDigits_step hcs
  unfold Double.exponentText
  rw [List.foldlM_cons, hsign]
  refine hdigits _ ?_ ?_
  · split
    · exact List.forall_mem_cons.mpr ⟨rfl, isDigits_toDigits⟩
    · exact isDigits_toDigits
  · split
    · exact List.cons_ne_nil _ _
    · exact Nat.toDigits_ne_nil

-- What is written begins with a digit, so that it may be signed.
def Written (text : List Char) : Prop := isNumber text ∧ ∃ c cs, text = c :: cs ∧ c.isDigit

theorem Written.signed (h : Written cs) (negative : Bool) : isNumber (signed negative cs) := by
  obtain ⟨hnumber, c, cs, rfl, hc⟩ := h
  exact isNumber_signed negative hnumber hc

theorem written_append {cs' : List Char} (h : Leading digits)
    (hrest : cs'.foldlM NumberState.step .whole = some s) (haccepts : s.accepts) :
    Written (digits ++ cs') := by
  refine ⟨isNumber_of_state ((numberState_append (numberState_leading h)).trans hrest) haccepts, ?_⟩
  obtain ⟨hdigits, c, cs, rfl, -⟩ := h
  exact ⟨c, cs ++ cs', rfl, hdigits c List.mem_cons_self⟩

theorem leading_take (h : Leading digits) (hn : 0 < n) : Leading (digits.take n) := by
  obtain ⟨hdigits, c, cs, rfl, hzero⟩ := h
  obtain ⟨m, rfl⟩ := Nat.exists_eq_succ_of_ne_zero hn.ne'
  exact ⟨fun d hd => hdigits d (List.mem_of_mem_take hd), c, cs.take m, rfl, hzero⟩

theorem isDigits_zeros : IsDigits (List.replicate n '0') := fun c hc => by
  rw [List.eq_of_mem_replicate hc]
  rfl

theorem foldlM_fraction (h : IsDigits digits) (hne : digits ≠ []) :
    ('.' :: digits).foldlM NumberState.step .whole = some .fraction := foldlM_point h hne

theorem written_layout (h : Leading digits) (point : ℤ) : Written (Double.layout digits point) := by
  have hne : digits ≠ [] := by
    obtain ⟨-, c, cs, rfl, -⟩ := h
    exact List.cons_ne_nil _ _
  have hdrop {n : ℕ} (hn : n < digits.length) :
      ('.' :: digits.drop n).foldlM NumberState.step .whole = some .fraction :=
    foldlM_fraction (fun d hd => h.all d (List.mem_of_mem_drop hd))
      (fun hnil => absurd (List.drop_eq_nil_iff.mp hnil) (by omega))
  unfold Double.layout
  split_ifs with hplain hsmall hlong hsingle
  · refine ⟨isNumber_of_state (s := .fraction) ?_ rfl, '0', _, rfl, rfl⟩
    refine foldlM_point ?_ ?_
    · exact fun c hc => (List.mem_append.mp hc).elim (isDigits_zeros c) (h.all c)
    · exact fun hnil => hne (List.append_eq_nil_iff.mp hnil).2
  · rw [List.append_assoc]
    refine written_append (s := .fraction) h ?_ rfl
    rw [foldlM_append_some (foldlM_digits whole_step isDigits_zeros)]
    rfl
  · exact written_append (leading_take h (by omega)) (hdrop (by omega)) rfl
  · exact written_append h (foldlM_exponentText _) rfl
  · rw [List.append_assoc]
    refine written_append (s := .expDigits) (leading_take h (by decide)) ?_ rfl
    rw [foldlM_append_some (hdrop (by omega))]
    exact foldlM_exponentText _

theorem closest_mem {decimals : List (ℕ × ℤ)} {d : ℕ × ℤ}
    (h : Double.closest x decimals = some d) : d ∈ decimals := by
  unfold Double.closest at h
  split at h
  next below above =>
    dsimp only at h
    split at h
    · simp [Option.some.inj h]
    · simp [Option.some.inj h]
  · exact List.mem_of_head? h

theorem written_sizeText (x : ℚ) : Written (Double.sizeText x) := by
  unfold Double.sizeText
  split
  · exact ⟨rfl, '0', ['.', '0'], rfl, rfl⟩
  next coefficient exponent hshortest =>
    obtain ⟨n, -, hclosest⟩ := List.exists_of_findSome?_eq_some hshortest
    have hmem := List.mem_filter.mp (closest_mem hclosest)
    have hne : coefficient ≠ 0 := (of_decide_eq_true hmem.2).1
    exact written_layout (leading_rdropWhile (leading_toDigits hne)) _

theorem written_toDigits (n : ℕ) : Written (Nat.toDigits 10 n) := by
  rcases eq_or_ne n 0 with rfl | hne
  · exact ⟨rfl, '0', [], rfl, rfl⟩
  · have hwritten : Written (Nat.toDigits 10 n ++ []) :=
      written_append (leading_toDigits hne) rfl rfl
    rwa [List.append_nil] at hwritten

theorem Number.tree_valid (number : Number) : number.tree.Valid := by
  have hvalid {lexeme : List Char} (h : isNumber lexeme) : (Tree.number lexeme).Valid :=
    fun token htoken => (List.mem_singleton.mp htoken) ▸ h
  match number with
  | .int n => exact hvalid ((written_toDigits _).signed _)
  | .float (.finite negative size) => exact hvalid ((written_sizeText size).signed negative)
  | .float (.infinite false) => exact fun _ h => nomatch h
  | .float (.infinite true) => exact fun _ h => nomatch h
  | .float .nan => exact fun _ h => nomatch h

end Written

end Json
