import Mathlib

-- JSON texts as they are spelled, and a decoder that reads them character by character with a
-- stack of the arrays and objects that are still open.
namespace Json

inductive Piece where
  | plain (c : Char)
  | escaped (c : Char)
  | unicode (digits : List Char)
deriving DecidableEq

inductive Literal where
  | null | true | false | nan | infinity | minusInfinity
deriving DecidableEq

inductive Tree where
  | literal (l : Literal)
  | number (lexeme : List Char)
  | string (pieces : List Piece)
  | array (items : List Tree)
  | object (members : List (List Piece × Tree))

section Texts

def Piece.text : Piece → List Char
  | .plain c => [c]
  | .escaped c => ['\\', c]
  | .unicode digits => '\\' :: 'u' :: digits

def quoted (pieces : List Piece) : List Char := '"' :: (pieces.flatMap Piece.text ++ ['"'])

def Literal.text : Literal → List Char
  | .null => "null".toList
  | .true => "true".toList
  | .false => "false".toList
  | .nan => "NaN".toList
  | .infinity => "Infinity".toList
  | .minusInfinity => "-Infinity".toList

mutual

def Tree.text : Tree → List Char
  | .literal l => l.text
  | .number lexeme => lexeme
  | .string pieces => quoted pieces
  | .array [] => ['[', ']']
  | .array (t :: ts) => '[' :: (t.text ++ moreItems ts)
  | .object [] => ['{', '}']
  | .object ((key, t) :: ms) => '{' :: (quoted key ++ ':' :: (t.text ++ moreMembers ms))

def moreItems : List Tree → List Char
  | [] => [']']
  | t :: ts => ',' :: (t.text ++ moreItems ts)

def moreMembers : List (List Piece × Tree) → List Char
  | [] => ['}']
  | (key, t) :: ms => ',' :: (quoted key ++ ':' :: (t.text ++ moreMembers ms))

end

inductive Token where
  | number (lexeme : List Char)
  | string (pieces : List Piece)
deriving DecidableEq

mutual

def Tree.tokens : Tree → List Token
  | .literal _ => []
  | .number lexeme => [.number lexeme]
  | .string pieces => [.string pieces]
  | .array ts => itemTokens ts
  | .object ms => memberTokens ms

def itemTokens : List Tree → List Token
  | [] => []
  | t :: ts => t.tokens ++ itemTokens ts

def memberTokens : List (List Piece × Tree) → List Token
  | [] => []
  | (key, t) :: ms => .string key :: (t.tokens ++ memberTokens ms)

end

mutual

def Tree.depth : Tree → Nat
  | .array ts => itemsDepth ts + 1
  | .object ms => membersDepth ms + 1
  | _ => 0

def itemsDepth : List Tree → Nat
  | [] => 0
  | t :: ts => max t.depth (itemsDepth ts)

def membersDepth : List (List Piece × Tree) → Nat
  | [] => 0
  | (_, t) :: ms => max t.depth (membersDepth ms)

end

mutual

-- The keys of every object.
def Tree.keyLists : Tree → List (List (List Piece))
  | .array ts => itemKeyLists ts
  | .object ms => ms.map (·.1) :: memberKeyLists ms
  | _ => []

def itemKeyLists : List Tree → List (List (List Piece))
  | [] => []
  | t :: ts => t.keyLists ++ itemKeyLists ts

def memberKeyLists : List (List Piece × Tree) → List (List (List Piece))
  | [] => []
  | (_, t) :: ms => t.keyLists ++ memberKeyLists ms

end

theorem Tree.induction {P : Tree → Prop} (literal : ∀ l, P (.literal l))
    (number : ∀ lexeme, P (.number lexeme)) (string : ∀ pieces, P (.string pieces))
    (array : ∀ items, (∀ t ∈ items, P t) → P (.array items))
    (object : ∀ members, (∀ m ∈ members, P m.2) → P (.object members)) (t : Tree) : P t :=
  @Tree.rec P (fun items => ∀ t ∈ items, P t) (fun members => ∀ m ∈ members, P m.2)
    (fun m => P m.2) literal number string array object (fun _ h => nomatch h)
    (fun _ _ head tail => List.forall_mem_cons.mpr ⟨head, tail⟩) (fun _ h => nomatch h)
    (fun _ _ head tail => List.forall_mem_cons.mpr ⟨head, tail⟩) (fun _ _ value => value) t

end Texts

section Numbers

inductive NumberState where
  | minus | zero | whole | point | fraction | exp | expSign | expDigits
deriving DecidableEq

namespace NumberState

def begin : Char → Option NumberState
  | '-' => some minus
  | '0' => some zero
  | c => if c.isDigit then some whole else none

def step (s : NumberState) (c : Char) : Option NumberState :=
  match s with
  | minus => if c = '0' then some zero else if c.isDigit then some whole else none
  | zero => if c = '.' then some point else if c = 'e' ∨ c = 'E' then some exp else none
  | whole =>
      if c.isDigit then some whole else if c = '.' then some point
      else if c = 'e' ∨ c = 'E' then some exp else none
  | point => if c.isDigit then some fraction else none
  | fraction =>
      if c.isDigit then some fraction else if c = 'e' ∨ c = 'E' then some exp else none
  | exp =>
      if c.isDigit then some expDigits else if c = '+' ∨ c = '-' then some expSign else none
  | expSign => if c.isDigit then some expDigits else none
  | expDigits => if c.isDigit then some expDigits else none

def accepts : NumberState → Bool
  | zero | whole | fraction | expDigits => true
  | _ => false

-- The characters after the longest number that the ones read so far begin with.
def overshoot : NumberState → Nat
  | point | exp => 1
  | expSign => 2
  | _ => 0

end NumberState

def numberState : List Char → Option NumberState
  | [] => none
  | c :: cs => (NumberState.begin c).bind fun s => cs.foldlM NumberState.step s

def isNumber (lexeme : List Char) : Bool := (numberState lexeme).any (·.accepts)

def isInteger (lexeme : List Char) : Bool := lexeme.all fun c => c = '-' || c.isDigit

end Numbers

section Reading

structure Limits where
  depth : Nat
  digits : Nat

inductive Error where
  | decode
  | recursion
  | digits
deriving DecidableEq

inductive Frame where
  | array (items : List Tree)
  | object (members : List (List Piece × Tree))
  | member (members : List (List Piece × Tree)) (key : List Piece)

inductive Mode where
  | value
  | first
  | firstKey
  | key
  | colon
  | done (t : Tree)
  | literal (l : Literal) (read : Nat)
  | number (lexeme : List Char) (s : NumberState)
  | string (isKey : Bool) (pieces : List Piece)
  | escape (isKey : Bool) (pieces : List Piece)
  | unicode (isKey : Bool) (pieces : List Piece) (digits : List Char)

structure State where
  mode : Mode
  stack : List Frame

def isBlank (c : Char) : Bool := c = ' ' || c = '\t' || c = '\n' || c = '\r'

def isHex (c : Char) : Bool :=
  c.isDigit || ('a' ≤ c && c ≤ 'f') || ('A' ≤ c && c ≤ 'F')

def escapes : List Char := ['"', '\\', '/', 'b', 'f', 'n', 'r', 't']

variable (limits : Limits)

def tooLong (lexeme : List Char) : Bool :=
  isInteger lexeme && limits.digits < (lexeme.filter Char.isDigit).length

def push (frame : Frame) (mode : Mode) (stack : List Frame) : Except Error State :=
  if stack.length < limits.depth then .ok ⟨mode, frame :: stack⟩ else .error .recursion

def opening (c : Char) (stack : List Frame) : Except Error State :=
  if c = '"' then .ok ⟨.string false [], stack⟩
  else if c = '{' then push limits (.object []) .firstKey stack
  else if c = '[' then push limits (.array []) .first stack
  else if c = 'n' then .ok ⟨.literal .null 1, stack⟩
  else if c = 't' then .ok ⟨.literal .true 1, stack⟩
  else if c = 'f' then .ok ⟨.literal .false 1, stack⟩
  else if c = 'N' then .ok ⟨.literal .nan 1, stack⟩
  else if c = 'I' then .ok ⟨.literal .infinity 1, stack⟩
  else match NumberState.begin c with
    | some s => .ok ⟨.number [c] s, stack⟩
    | none => .error .decode

def after (t : Tree) (c : Char) : List Frame → Except Error State
  | [] => .error .decode
  | .array items :: stack =>
      if c = ',' then .ok ⟨.value, .array (items ++ [t]) :: stack⟩
      else if c = ']' then .ok ⟨.done (.array (items ++ [t])), stack⟩
      else .error .decode
  | .object _ :: _ => .error .decode
  | .member members key :: stack =>
      if c = ',' then .ok ⟨.key, .object (members ++ [(key, t)]) :: stack⟩
      else if c = '}' then .ok ⟨.done (.object (members ++ [(key, t)])), stack⟩
      else .error .decode

def closeArray : List Frame → Except Error State
  | .array items :: stack => .ok ⟨.done (.array items), stack⟩
  | _ => .error .decode

def closeObject : List Frame → Except Error State
  | .object members :: stack => .ok ⟨.done (.object members), stack⟩
  | _ => .error .decode

def next (t : Tree) (c : Char) (stack : List Frame) : Except Error State :=
  if isBlank c then .ok ⟨.done t, stack⟩ else after t c stack

-- The number that the characters begin with is read first, and may be too long to be converted.
def numberRead (lexeme : List Char) (s : NumberState) : Except Error Tree :=
  if tooLong limits (lexeme.take (lexeme.length - s.overshoot)) then .error .digits
  else if s.accepts then .ok (.number lexeme) else .error .decode

def closeString (isKey : Bool) (pieces : List Piece) (stack : List Frame) : Except Error State :=
  match isKey, stack with
  | false, stack => .ok ⟨.done (.string pieces), stack⟩
  | true, .object members :: stack => .ok ⟨.colon, .member members pieces :: stack⟩
  | true, _ => .error .decode

def step (st : State) (c : Char) : Except Error State :=
  match st.mode with
  | .value => if isBlank c then .ok st else opening limits c st.stack
  | .first =>
      if isBlank c then .ok st
      else if c = ']' then closeArray st.stack
      else opening limits c st.stack
  | .firstKey =>
      if isBlank c then .ok st
      else if c = '"' then .ok ⟨.string true [], st.stack⟩
      else if c = '}' then closeObject st.stack
      else .error .decode
  | .key =>
      if isBlank c then .ok st
      else if c = '"' then .ok ⟨.string true [], st.stack⟩
      else .error .decode
  | .colon =>
      if isBlank c then .ok st
      else if c = ':' then .ok ⟨.value, st.stack⟩
      else .error .decode
  | .done t => next t c st.stack
  | .literal l read =>
      if l.text[read]? ≠ some c then .error .decode
      else if l.text.length = read + 1 then .ok ⟨.done (.literal l), st.stack⟩
      else .ok ⟨.literal l (read + 1), st.stack⟩
  | .number lexeme s =>
      match s.step c with
      | some s' => .ok ⟨.number (lexeme ++ [c]) s', st.stack⟩
      | none =>
          if s = .minus ∧ c = 'I' then .ok ⟨.literal .minusInfinity 2, st.stack⟩
          else (numberRead limits lexeme s).bind fun t => next t c st.stack
  | .string isKey pieces =>
      if c = '"' then closeString isKey pieces st.stack
      else if c = '\\' then .ok ⟨.escape isKey pieces, st.stack⟩
      else if c < ' ' then .error .decode
      else .ok ⟨.string isKey (pieces ++ [.plain c]), st.stack⟩
  | .escape isKey pieces =>
      if c = 'u' then .ok ⟨.unicode isKey pieces [], st.stack⟩
      else if c ∈ escapes then .ok ⟨.string isKey (pieces ++ [.escaped c]), st.stack⟩
      else .error .decode
  | .unicode isKey pieces digits =>
      if ¬ isHex c then .error .decode
      else if digits.length = 3 then
        .ok ⟨.string isKey (pieces ++ [.unicode (digits ++ [c])]), st.stack⟩
      else .ok ⟨.unicode isKey pieces (digits ++ [c]), st.stack⟩

def finish (st : State) : Except Error Tree :=
  match st.mode with
  | .done t => if st.stack.isEmpty then .ok t else .error .decode
  | .number lexeme s =>
      (numberRead limits lexeme s).bind fun t =>
        if st.stack.isEmpty then .ok t else .error .decode
  | _ => .error .decode

def run (st : State) (text : List Char) : Except Error State := text.foldlM (step limits) st

def start : State := ⟨.value, []⟩

def read (text : List Char) : Except Error Tree := (run limits start text).bind (finish limits)

end Reading

end Json
