import Mathlib
import NextgenBackend.Bot.LlmParser
import NextgenBackend.Library.Fallible
import NextgenBackend.Library.Text

namespace NextgenBackend.Bot.Quantities

open Llm (PyError)

-- Digits that no number is written with in decimal: raised, lowered, circled and the like.
def otherDigits : List (Nat × Nat) := [
  (178, 179), (185, 185), (4969, 4977), (6618, 6618), (8304, 8304), (8308, 8313), (8320, 8329),
  (9312, 9320), (9332, 9340), (9352, 9360), (9450, 9450), (9461, 9469), (9471, 9471),
  (10102, 10110), (10112, 10120), (10122, 10130), (68160, 68163), (69216, 69224), (69714, 69722),
  (127232, 127242)]

def isDigitChar (c : Char) : Bool :=
  Text.isDigit c || otherDigits.any fun range => range.1 ≤ c.toNat && c.toNat ≤ range.2

def isdigit (token : List Char) : Bool := !token.isEmpty && token.all isDigitChar

def maxDigits : Nat := 4300

def decimalValue (digits : List Nat) : Int := (digits.foldl (fun n d => 10 * n + d) 0 : Nat)

-- What a token of digits reads as: each has to be a decimal one, and they may not be too many.
def int (token : List Char) : Except PyError Int :=
  match token.mapM Text.digitValue with
  | some digits => if token.length ≤ maxDigits then .ok (decimalValue digits) else .error .valueError
  | none => .error .valueError

def wordNums : List (String × Int) := [
  ("one", 1), ("two", 2), ("three", 3), ("four", 4), ("five", 5),
  ("six", 6), ("seven", 7), ("eight", 8), ("nine", 9), ("ten", 10)]

def clamp (quantity : Int) : Int := max 1 (min quantity 20)

def isTimes (c : Char) : Bool := c = 'x' || c = 'X'

-- The digits of a token such as 2x or x2.
def timesDigits (token : List Char) : List Char :=
  if token.getLast?.any isTimes then token.dropLast
  else if token.head?.any isTimes then token.tail
  else []

def times (token : List Char) : Bool :=
  !(timesDigits token).isEmpty && (timesDigits token).all Text.isDigit

def readQuantity (token : List Char) : Except PyError Int :=
  if isdigit token then (int token).map clamp
  else if times token then (int (timesDigits token)).map clamp
  else .ok ((wordNums.lookup (String.ofList token)).getD 1)

def lastToken (before : List Char) : List Char :=
  ((Text.words before).getLast?.getD []).rdropWhile fun c => c = '.' || c = ','

-- The quantity right before an item, or one where there is none.
def parseQuantityBefore (before : List Char) : Except PyError Int := readQuantity (lastToken before)

-- A token that is read as a number is one of decimal digits.
def Readable (token : List Char) : Prop :=
  token.all Text.isDigit = true ∧ token.length ≤ maxDigits

instance (token : List Char) : Decidable (Readable token) := by
  unfold Readable
  infer_instance

theorem mapM_digitValue {token : List Char} :
    (token.mapM Text.digitValue).isSome = token.all Text.isDigit := by
  induction token with
  | nil => rfl
  | cons c token ih =>
      rw [List.mapM_cons, List.all_cons, ← ih, Text.isDigit]
      cases Text.digitValue c with
      | none => rfl
      | some d => cases token.mapM Text.digitValue <;> rfl

theorem int_ok_iff {token : List Char} : (∃ n, int token = .ok n) ↔ Readable token := by
  unfold int Readable
  rw [← mapM_digitValue]
  cases token.mapM Text.digitValue with
  | none => simp
  | some digits =>
      by_cases hlength : token.length ≤ maxDigits
      · simp [hlength]
      · simp [hlength]

theorem clamp_range (quantity : Int) : 1 ≤ clamp quantity ∧ clamp quantity ≤ 20 := by
  unfold clamp
  omega

theorem wordNums_range {token : String} :
    1 ≤ (wordNums.lookup token).getD 1 ∧ (wordNums.lookup token).getD 1 ≤ 20 := by
  have hall : ∀ entry ∈ wordNums, 1 ≤ entry.2 ∧ entry.2 ≤ 20 := by decide
  cases hlookup : wordNums.lookup token with
  | none => decide
  | some n =>
      obtain ⟨before, after, hsplit, -⟩ := List.lookup_eq_some_iff.mp hlookup
      exact hall (token, n) (by simp [hsplit])

theorem readQuantity_range {token : List Char} {n : Int} (h : readQuantity token = .ok n) :
    1 ≤ n ∧ n ≤ 20 := by
  unfold readQuantity at h
  split at h
  next =>
    obtain ⟨m, -, rfl⟩ := Fallible.map_eq_ok.mp h
    exact clamp_range m
  next =>
    split at h
    next =>
      obtain ⟨m, -, rfl⟩ := Fallible.map_eq_ok.mp h
      exact clamp_range m
    next =>
      cases h
      exact wordNums_range

end NextgenBackend.Bot.Quantities
