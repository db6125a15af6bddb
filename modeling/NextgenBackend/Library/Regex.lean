import Mathlib

-- Regular expressions over characters, read as a backtracking matcher reads them.
inductive Regex where
  | empty
  | char (p : Char → Bool)
  | plus (p : Char → Bool)
  | boundary
  | ahead (p : Char → Bool)
  | seq (r s : Regex)
  | alt (r s : Regex)
  | group (r : Regex)

namespace Regex

-- A place in a text: the character before it, what follows, and what the group has captured.
structure Cursor where
  before : Option Char
  rest : List Char
  captured : List Char

-- The longest run comes first.
def runs (p : Char → Bool) (captured : List Char) : List Char → List Cursor
  | [] => []
  | c :: cs => if p c then runs p captured cs ++ [⟨some c, cs, captured⟩] else []

section Matcher

variable (isWord : Char → Bool)

-- Where a match begun at a place can stop, in the order in which the matcher tries them.
def ends : Regex → Cursor → List Cursor
  | .empty, start => [start]
  | .char p, start =>
      match start.rest with
      | [] => []
      | c :: cs => if p c then [⟨some c, cs, start.captured⟩] else []
  | .plus p, start => runs p start.captured start.rest
  | .boundary, start =>
      if start.before.any isWord = start.rest.head?.any isWord then [] else [start]
  | .ahead p, start => if start.rest.head?.any p then [start] else []
  | .seq r s, start => (ends r start).flatMap (ends s)
  | .alt r s, start => ends r start ++ ends s start
  | .group r, start =>
      (ends r start).map fun stop =>
        { stop with captured := start.rest.take (start.rest.length - stop.rest.length) }

-- Every match of an expression that consumes something is replaced, from left to right.
def sub (r : Regex) (replacement : List Char → List Char) :
    Nat → Option Char → List Char → List Char
  | _, _, [] => []
  | skip + 1, _, c :: cs => sub r replacement skip (some c) cs
  | 0, before, c :: cs =>
      match (ends isWord r ⟨before, c :: cs, []⟩).head? with
      | some stop =>
          replacement stop.captured ++
            sub r replacement (cs.length - stop.rest.length) (some c) cs
      | none => c :: sub r replacement 0 (some c) cs

end Matcher

-- The text as it is spelled once its characters are folded.
def spelled (fold : Char → Char) : List Char → Regex
  | [] => .empty
  | d :: ds => .seq (.char fun c => fold c = d) (spelled fold ds)

-- Two or more characters of a class in a row.
def twoOrMore (p : Char → Bool) : Regex := .seq (.char p) (.plus p)

end Regex
