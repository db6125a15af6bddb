import Mathlib
import NextgenBackend.Bot.LineDetectors
import NextgenBackend.Bot.Quantities

namespace NextgenBackend.Bot.Extraction

open Pattern
open Detectors (gap any phrase)
open Llm (PyError)
open Quantities (parseQuantityBefore)

-- What Unicode says of letters. Two characters have no lower case of one character of their own.
structure Letters where
  lower : List Char → List Char
  isAlpha : Char → Bool
  lowerChar : Char → Char
  lower_plain : ∀ s, (∀ c ∈ s, c ≠ 'İ' ∧ c ≠ 'Σ') → lower s = s.map lowerChar
  lowerChar_blank : lowerChar ' ' = ' '
  isAlpha_blank : isAlpha ' ' = false

def itemAliases : List (String × String) := [
  ("coke", "coca-cola"), ("cola", "coca-cola"), ("sprite", "sprite"), ("fanta", "fanta"),
  ("wings", "wings"), ("buddy", "buddy 440ml")]

-- An item found in a message: the text before it, what the text after it asks for, what was
-- added to that since, and the place in the message that the item takes.
structure Match where
  item : MenuItem
  before : List Char
  suffix : Option String
  notes : List String
  start : Nat
  stop : Nat

def Match.quantity (m : Match) : Except PyError Int := parseQuantityBefore m.before

def addNote (modifier : Option String) (note : String) : Option String :=
  match modifier with
  | none => some note
  | some old => some (if old = "" then note else old ++ ", " ++ note)

def Match.modifier (m : Match) : Option String := m.notes.foldl addNote m.suffix

def Match.note (note : String) (m : Match) : Match := { m with notes := m.notes ++ [note] }

def word (s : String) : Pattern := spelled id s.toList

def occursAt (needle hay : List Char) (i : Nat) : Bool := needle.isPrefixOf (hay.drop i)

def places (text : List Char) : List Nat := List.range (text.length + 1)

def find (needle hay : List Char) : Option Nat := (places hay).find? (occursAt needle hay)

section Modifiers

def takenOut : Pattern := inOrder [
  oneOf [
    inOrder [word "take", gap, oneOf [word "out", word "off", word "away"]],
    inOrder [word "leave", gap, oneOf [word "out", word "off"]]],
  gap,
  .group 1 (phrase 2)]

def notPut : Pattern := inOrder [
  word "don", opt any, word "t", gap,
  oneOf [word "put", word "add", word "include", word "want"], gap,
  .group 1 (phrase 2)]

def withWord (s : String) : Pattern := inOrder [
  opt (.seq (word "with") gap), word s, gap, .group 1 (phrase 2)]

def withoutWord : Pattern := inOrder [word "without", gap, .group 1 (phrase 2)]

def leadingArticle : Pattern := inOrder [
  .start, oneOf [Detectors.lit "a", Detectors.lit "an", Detectors.lit "the"], gap]

def trailingModifier : Pattern := inOrder [
  gap,
  oneOf [Detectors.lit "extra", Detectors.lit "with", Detectors.lit "and", Detectors.lit "no",
    Detectors.lit "without"],
  .boundary, .many any, .finish]

def groups (r : Pattern) (text : List Char) : List (List Char) :=
  (findAll Text.isWordChar r text).map (·.group 1)

def stripArticles (text : List Char) : List Char :=
  Text.strip (cut Text.isWordChar leadingArticle (Text.strip text))

def no (text : List Char) : String := "no " ++ String.ofList (stripArticles text)

def modifierParts (s : List Char) : List String :=
  ((groups takenOut s).map fun target =>
      no (Text.strip (cut Text.isWordChar trailingModifier target))) ++
    (groups notPut s).map no ++
    (groups (withWord "no") s).map no ++
    (groups withoutWord s).map no ++
    (groups (withWord "extra") s).map fun target => "extra " ++ String.ofList (Text.strip target)

end Modifiers

section Chunks

variable (letters : Letters)

def extractModifierFromSuffix (suffix : List Char) : Option String :=
  let parts := (modifierParts (letters.lower (Text.strip suffix))).eraseDups
  if parts = [] then none else some (", ".intercalate parts)

def nameLower (item : MenuItem) : List Char := letters.lower item.name.toList

-- A chunk of the message in lower case and the place in the message where it begins.
structure Chunk where
  text : List Char
  offset : Nat

def chunkOf (text : List Char) (offset : Nat) : Chunk where
  text := letters.lower (Text.strip text)
  offset := offset + (text.takeWhile Text.isSpace).length

-- No match so far takes a character between the two places.
def free (matched : List Match) (start stop : Nat) : Bool :=
  matched.all fun m => stop ≤ m.start || m.stop ≤ start

def alphaBefore (text : List Char) (i : Nat) : Bool := (text.take i).getLast?.any letters.isAlpha

def alphaAt (text : List Char) (i : Nat) : Bool := text[i]?.any letters.isAlpha

def aliasForms (shorthand : List Char) : Pattern :=
  match shorthand.reverse with
  | 'y' :: c :: _ =>
      if ['a', 'e', 'i', 'o', 'u'].contains c then .seq (spelled id shorthand) (opt (word "s"))
      else .alt (.seq (spelled id shorthand) (opt (word "s")))
        (.seq (spelled id shorthand.dropLast) (word "ies"))
  | _ => .seq (spelled id shorthand) (opt (word "s"))

def aliasPattern (shorthand : List Char) : Pattern :=
  inOrder [.notAfter (· = '-'), .boundary, aliasForms shorthand, .boundary]

def parenthetical : Pattern :=
  inOrder [.char (· = '('), .group 1 (plus (.char (· ≠ ')'))), .char (· = ')')]

def namedIn (text : List Char) (item : MenuItem) : Bool :=
  (find (nameLower letters item) text).isSome ||
    (groups parenthetical (nameLower letters item)).any fun detail => (find detail text).isSome

def candidates (active : List MenuItem) (names : List (List Char)) (target : List Char) :
    List MenuItem :=
  active.filter fun item =>
    (find target (nameLower letters item)).isSome && !names.contains (nameLower letters item)

def differInPrice (items : List MenuItem) : Bool :=
  items.any fun item => items.any fun other => item.priceCents ≠ other.priceCents

-- Where the prices differ the message has to name one of the candidates.
def choose (ignorePriceAmbiguity : Bool) (text : List Char) (items : List MenuItem) :
    Option MenuItem :=
  if !ignorePriceAmbiguity && differInPrice items then
    match items.filter (namedIn letters text) with
    | [item] => some item
    | _ => none
  else items.head?

variable (active : List MenuItem) (ignorePriceAmbiguity : Bool)

def aliasMatch (chunk : Chunk) (matched : List Match) (names : List (List Char))
    (shorthand target : String) : Option Match :=
  (findAll Text.isWordChar (aliasPattern shorthand.toList) chunk.text).findSome? fun m =>
    let start := chunk.offset + m.before.length
    let stop := start + m.text.length
    if free matched start stop then
      (choose letters ignorePriceAmbiguity chunk.text
        (candidates letters active names target.toList)).map fun item =>
          ⟨item, m.before.reverse, extractModifierFromSuffix letters m.rest, [], start, stop⟩
    else none

-- A plural s belongs to the name.
def pluralEnd (text : List Char) (stop : Nat) : Nat :=
  if text[stop]? = some 's' && !alphaAt letters text (stop + 1) then stop + 1 else stop

def nameAt (chunk : Chunk) (matched : List Match) (name : List Char) (i : Nat) : Bool :=
  occursAt name chunk.text i &&
    free matched (chunk.offset + i) (chunk.offset + i + name.length) &&
    !alphaBefore letters chunk.text i &&
    !alphaAt letters chunk.text (pluralEnd letters chunk.text (i + name.length))

def nameMatch (chunk : Chunk) (matched : List Match) (names : List (List Char))
    (item : MenuItem) : Option Match :=
  let name := nameLower letters item
  if name.length < 2 || names.contains name then none
  else
    ((places chunk.text).find? (nameAt letters chunk matched name)).map fun i =>
      ⟨item, chunk.text.take i,
        extractModifierFromSuffix letters
          (chunk.text.drop (pluralEnd letters chunk.text (i + name.length))),
        [], chunk.offset + i, chunk.offset + i + name.length⟩

-- What a chunk has given so far and the names that no later match may have.
structure Scan where
  matched : List Match
  names : List (List Char)

def Scan.record (scan : Scan) (m : Option Match) : Scan :=
  match m with
  | none => scan
  | some m => ⟨scan.matched ++ [m], nameLower letters m.item :: scan.names⟩

def scanAlias (chunk : Chunk) (scan : Scan) (entry : String × String) : Scan :=
  scan.record letters
    (aliasMatch letters active ignorePriceAmbiguity chunk scan.matched scan.names entry.1 entry.2)

def scanName (chunk : Chunk) (scan : Scan) (item : MenuItem) : Scan :=
  scan.record letters (nameMatch letters chunk scan.matched scan.names item)

def scanChunk (chunk : Chunk) (names : List (List Char)) : Scan :=
  if chunk.text = [] then ⟨[], names⟩
  else
    active.foldl (scanName letters chunk)
      (itemAliases.foldl (scanAlias letters active ignorePriceAmbiguity chunk) ⟨[], names⟩)

def isEnabledOptionValue (item : MenuItem) (candidateName : String) : Bool :=
  item.optionGroups.any fun group => group.options.any fun option =>
    option.isEnabled && letters.lower option.name.toList = letters.lower candidateName.toList

def host (matched : List Match) (m : Match) : Option Match :=
  matched.find? fun other =>
    other.item.id ≠ m.item.id && isEnabledOptionValue letters other.item m.item.name

-- An item that is an option of another one is noted there, where the other one is kept so far.
def foldMatch (matched kept : List Match) (m : Match) : List Match :=
  match host letters matched m with
  | none => kept ++ [m]
  | some other =>
      match kept.findIdx? fun e => e.item.id = other.item.id with
      | none => kept
      | some i => kept.modify i (Match.note m.item.name)

def foldOptions (matched : List Match) : List Match :=
  if 1 < matched.length then matched.foldl (foldMatch letters matched) [] else matched

end Chunks

section Message

variable (letters : Letters)

def sortedByLength (items : List MenuItem) : List MenuItem :=
  items.insertionSort fun item other => other.name.length ≤ item.name.length

def multiPart (item : MenuItem) : Bool :=
  item.name.toList.contains ',' || (find " and ".toList (nameLower letters item)).isSome

-- The message with what was matched as a whole name taken out, and those matches.
structure Excised where
  text : List Char
  matched : List Match

def excise (text : List Char) (start stop : Nat) : List Char :=
  text.take start ++ List.replicate (stop - start) ' ' ++ text.drop stop

def wholeName (text : List Char) (item : MenuItem) : Option Match :=
  let name := nameLower letters item
  let lowered := letters.lower text
  ((find name lowered).filter fun i =>
    !alphaBefore letters lowered i && !alphaAt letters lowered (i + name.length)).map fun i =>
      ⟨item, lowered.take i, extractModifierFromSuffix letters (lowered.drop (i + name.length)),
        [], i, i + name.length⟩

def exciseItem (state : Excised) (item : MenuItem) : Excised :=
  match wholeName letters state.text item with
  | none => state
  | some m => ⟨excise state.text m.start m.stop, state.matched ++ [m]⟩

def wholeNames (msgText : List Char) (active : List MenuItem) : Excised :=
  (active.filter (multiPart letters)).foldl (exciseItem letters) ⟨msgText, []⟩

def separator : Pattern := oneOf [
  inOrder [.boundary, Detectors.lit "and", .boundary],
  inOrder [.boundary, Detectors.lit "also", .boundary],
  .char (· = ',')]

-- The pieces between the separators, each with the place where it begins.
def pieces (text : List Char) : List (List Char × Nat) :=
  let parts := segments Text.isWordChar separator text
  (parts.1, 0) :: parts.2.map fun part => (part.2, part.1.before.length + part.1.text.length)

variable (active : List MenuItem) (ignorePriceAmbiguity : Bool)

-- All that was found in the message, by chunk as well, and what is kept of it with the notes.
structure Progress where
  found : List Match
  scans : List (List Match)
  kept : List Match
  names : List (List Char)

def noteLast (note : Option String) (kept : List Match) : List Match :=
  match note, kept.getLast? with
  | some note, some last => kept.dropLast ++ [last.note note]
  | _, _ => kept

def extractChunk (progress : Progress) (piece : List Char × Nat) : Progress :=
  let scan := scanChunk letters active ignorePriceAmbiguity (chunkOf letters piece.1 piece.2)
    progress.names
  let kept := foldOptions letters scan.matched
  { found := progress.found ++ scan.matched
    scans := progress.scans ++ [scan.matched]
    kept :=
      if kept ≠ [] then progress.kept ++ kept
      else noteLast (extractModifierFromSuffix letters piece.1) progress.kept
    names := scan.names }

def matchItems (msgText : List Char) : Progress :=
  let whole := wholeNames letters msgText active
  (pieces whole.text).foldl (extractChunk letters active ignorePriceAmbiguity)
    ⟨whole.matched, [], whole.matched, whole.matched.map fun m => nameLower letters m.item⟩

def matchMessage (msgText : List Char) (menuItems : List MenuItem) : Progress :=
  matchItems letters (sortedByLength (menuItems.filter Llm.isActive)) ignorePriceAmbiguity msgText

-- The quantity of a match is read where it is made; the first that cannot be read fails.
def extractItemsFromMessage (msgText : List Char) (menuItems : List MenuItem) :
    Except PyError (List (MenuItem × Int × Option String)) := do
  let progress := matchMessage letters ignorePriceAmbiguity msgText menuItems
  let _ ← progress.found.mapM Match.quantity
  progress.kept.mapM fun m => m.quantity.map fun quantity => (m.item, quantity, m.modifier)

end Message

section Kept

open scoped List

variable {letters : Letters} {active menuItems : List MenuItem} {ignorePriceAmbiguity : Bool}
  {matched kept : List Match} {m : Match} {note : Option String} {msgText : List Char}

-- A match without the notes on it.
def Match.bare (m : Match) : Match := { m with notes := [] }

@[simp]
theorem bare_note {s : String} : (m.note s).bare = m.bare := rfl

theorem bare_modify {s : String} {i : Nat} :
    (kept.modify i (Match.note s)).map Match.bare = kept.map Match.bare := by
  refine List.ext_getElem? fun k => ?_
  rw [List.getElem?_map, List.getElem?_map, List.getElem?_modify]
  by_cases hik : i = k
  · simp [hik, Function.comp_def]
  · simp [hik]

theorem bare_noteLast : (noteLast note kept).map Match.bare = kept.map Match.bare := by
  unfold noteLast
  split
  next s last hlast =>
    obtain ⟨init, rfl⟩ := List.getLast?_eq_some_iff.mp hlast
    simp
  next => rfl

theorem bare_foldMatch : (foldMatch letters matched kept m).map Match.bare <+
    kept.map Match.bare ++ [m.bare] := by
  unfold foldMatch
  split
  next => simp
  next other =>
    split
    next => exact List.sublist_append_left _ _
    next => rw [bare_modify]; exact List.sublist_append_left _ _

theorem bare_foldl {rest : List Match} : (rest.foldl (foldMatch letters matched) kept).map Match.bare <+
    kept.map Match.bare ++ rest.map Match.bare := by
  induction rest generalizing kept with
  | nil => simp
  | cons m rest ih =>
      refine ih.trans ?_
      rw [List.map_cons, List.append_cons]
      exact bare_foldMatch.append_right _

theorem bare_foldOptions : (foldOptions letters matched).map Match.bare <+ matched.map Match.bare := by
  unfold foldOptions
  split
  · exact bare_foldl
  · exact List.Sublist.refl _

theorem bare_extractChunk {progress : Progress} {piece : List Char × Nat}
    (h : progress.kept.map Match.bare <+ progress.found.map Match.bare) :
    (extractChunk letters active ignorePriceAmbiguity progress piece).kept.map Match.bare <+
      (extractChunk letters active ignorePriceAmbiguity progress piece).found.map Match.bare := by
  simp only [extractChunk]
  split
  · rw [List.map_append, List.map_append]
    exact h.append bare_foldOptions
  · rw [bare_noteLast, List.map_append]
    exact h.trans (List.sublist_append_left _ _)

theorem bare_kept : (matchMessage letters ignorePriceAmbiguity msgText menuItems).kept.map Match.bare <+
    (matchMessage letters ignorePriceAmbiguity msgText menuItems).found.map Match.bare := by
  have hchunks (pieces : List (List Char × Nat)) (progress : Progress)
      (h : progress.kept.map Match.bare <+ progress.found.map Match.bare) :
      (pieces.foldl (extractChunk letters
          (sortedByLength (menuItems.filter Llm.isActive)) ignorePriceAmbiguity)
        progress).kept.map Match.bare <+
      (pieces.foldl (extractChunk letters
          (sortedByLength (menuItems.filter Llm.isActive)) ignorePriceAmbiguity)
        progress).found.map Match.bare := by
    induction pieces generalizing progress with
    | nil => exact h
    | cons piece pieces ih => exact ih _ (bare_extractChunk h)
  exact hchunks _ _ (List.Sublist.refl _)

end Kept

end NextgenBackend.Bot.Extraction
