import NextgenBackend.Library.Json.Values

-- What the conversions of Python make of a value: its text, as code points, the number that a text
-- spells, and whether it counts as true.
namespace Json

open Numerals

def pointsOf (text : List Char) : List ℕ := text.map Char.toNat

def hexDigits (width code : ℕ) : List ℕ := pointsOf (hexadecimal.written width code)

-- A character inside a quoted text; `printable` knows the characters beyond ASCII.
def quotedPoint (printable : ℕ → Bool) (quote code : ℕ) : List ℕ :=
  if code = quote ∨ code = 92 then [92, code]
  else if code = 9 then pointsOf ['\\', 't']
  else if code = 10 then pointsOf ['\\', 'n']
  else if code = 13 then pointsOf ['\\', 'r']
  else if 32 ≤ code ∧ code < 127 then [code]
  else if 128 ≤ code ∧ printable code then [code]
  else if code < 0x100 then pointsOf ['\\', 'x'] ++ hexDigits 2 code
  else if code < 0x10000 then pointsOf ['\\', 'u'] ++ hexDigits 4 code
  else pointsOf ['\\', 'U'] ++ hexDigits 8 code

-- A text with an apostrophe and no double quote stands in double quotes.
def quotedString (printable : ℕ → Bool) (codes : List ℕ) : List ℕ :=
  let quote := if 39 ∈ codes ∧ 34 ∉ codes then 34 else 39
  quote :: (codes.flatMap (quotedPoint printable quote) ++ [quote])

def Number.repr : Number → List ℕ
  | .int n => pointsOf (signed (n < 0) (Nat.toDigits 10 n.natAbs))
  | .float (.finite negative size) => pointsOf (signed negative (Double.sizeText size))
  | .float (.infinite negative) => pointsOf (signed negative "inf".toList)
  | .float .nan => pointsOf "nan".toList

def listed (parts : List (List ℕ)) : List ℕ := (pointsOf [',', ' ']).intercalate parts

mutual

def Value.repr (printable : ℕ → Bool) : Value → List ℕ
  | .null => pointsOf "None".toList
  | .bool b => pointsOf (if b then "True".toList else "False".toList)
  | .number number => number.repr
  | .str codes => quotedString printable codes
  | .arr items => pointsOf ['['] ++ listed (itemReprs printable items) ++ pointsOf [']']
  | .obj entries => pointsOf ['\x7b'] ++ listed (entryReprs printable entries) ++ pointsOf ['\x7d']

def itemReprs (printable : ℕ → Bool) : List Value → List (List ℕ)
  | [] => []
  | v :: vs => v.repr printable :: itemReprs printable vs

def entryReprs (printable : ℕ → Bool) : List (List ℕ × Value) → List (List ℕ)
  | [] => []
  | (key, v) :: entries =>
      (quotedString printable key ++ pointsOf [':', ' '] ++ v.repr printable) ::
        entryReprs printable entries

end

mutual

-- How deep a value is nested.
def Value.depth : Value → ℕ
  | .arr items => valuesDepth items + 1
  | .obj entries => entriesDepth entries + 1
  | _ => 0

def valuesDepth : List Value → ℕ
  | [] => 0
  | v :: vs => max v.depth (valuesDepth vs)

def entriesDepth : List (List ℕ × Value) → ℕ
  | [] => 0
  | (_, v) :: entries => max v.depth (entriesDepth entries)

end

def Value.text (printable : ℕ → Bool) : Value → List ℕ
  | .str codes => codes
  | v => v.repr printable

def Value.truthy : Value → Bool
  | .null => false
  | .bool b => b
  | .number (.int n) => n ≠ 0
  | .number (.float (.finite _ size)) => size ≠ 0
  | .number (.float _) => true
  | .str codes => !codes.isEmpty
  | .arr items => !items.isEmpty
  | .obj entries => !entries.isEmpty

def charOf (code : ℕ) : Char := if code.isValidChar then Char.ofNat code else '\ufffd'

-- The separators of ASCII are no white space around a number.
def intSpace (c : Char) : Bool := Text.isSpace c && !(28 ≤ c.toNat && c.toNat ≤ 31)

-- Single underscores may part the digits, and no more digits than the limit are read.
def integerText (limit : ℕ) (codes : List ℕ) : Option ℤ :=
  let text := ((codes.map charOf).dropWhile intSpace).rdropWhile intSpace
  let (negative, rest) := Decimal.readSign text
  let digits := rest.filter (· ≠ '_')
  if (rest.splitOn '_').all (fun run => !run.isEmpty && run.all Text.isDigit) ∧
      digits.length ≤ limit then
    let size : ℤ := digits.foldl (fun n c => 10 * n + (Text.digitValue c).getD 0) 0
    some (if negative then -size else size)
  else none

end Json
