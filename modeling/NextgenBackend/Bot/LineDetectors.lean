import NextgenBackend.Bot.LlmActions
import NextgenBackend.Bot.Normalizer
import NextgenBackend.Library.Pattern

namespace NextgenBackend.Bot.Detectors

open Pattern

def lit (s : String) : Pattern := spelled Normalizer.fold s.toList

def wordChar : Pattern := .char Text.isWordChar

def gap : Pattern := plus (.char Text.isSpace)

def gaps : Pattern := .many (.char Text.isSpace)

def any : Pattern := .char (· ≠ '\n')

def said (ws : List String) : Pattern := inOrder ((ws.map lit).intersperse gap)

def saidThen (ws : List String) : Pattern := .seq (said ws) gap

def anyOf (phrases : List (List String)) : Pattern := oneOf (phrases.map said)

def anyThen (phrases : List (List String)) : Pattern := oneOf (phrases.map saidThen)

-- One word and up to so many more.
def phrase (more : Nat) : Pattern := .seq (plus wordChar) (upTo (.seq gap (plus wordChar)) more)

def dont : Pattern := inOrder [lit "don", opt any, lit "t"]

def found (r : Pattern) (s : String) : Option Found := search Text.isWordChar r s.toList

def group (m : Found) (n : Nat) : String := String.ofList (m.group n)

def without (r : Pattern) (s : String) : String := String.ofList (cut Text.isWordChar r s.toList)

section Detectors

variable (text : Cart.Text)

def lowered (msg : String) : String := text.lower (text.strip msg)

def captured (m : Found) (n : Nat) : String := text.lower (text.strip (group m n))

-- A line is meant by a reference or by one of the longer words of it.
def refersTo (ref : String) (line : Cart.Line) : Bool :=
  Cart.contains (text.lower line.name) ref ||
    ((text.words ref).filter fun w => 3 < w.length).any (Cart.contains (text.lower line.name))

def modifierPattern : Pattern := inOrder [
  .start,
  opt (inOrder [
    opt (anyThen [["can", "you"], ["could", "you"], ["please"], ["would", "you"]]),
    opt (anyThen [["just"], ["please"]]),
    anyOf [["add"], ["put"], ["include"], ["give", "me"], ["make", "it"]],
    gap]),
  .group 1 (inOrder [
    anyOf [["no"], ["extra"], ["more"], ["less"], ["without"], ["with", "no"], ["with", "extra"],
      ["spicy"], ["plain"]],
    gaps,
    phrase 3]),
  gap,
  oneOf [
    lit "to",
    lit "on",
    inOrder [saidThen ["for"], opt (saidThen ["me"]), opt (anyThen [["on"], ["in"]])],
    lit "in",
    lit "from"],
  gaps,
  opt (anyThen [["the"], ["my"], ["a"]]),
  .group 2 (.seq wordChar (.many (.char fun c => Text.isWordChar c || Text.isSpace c))),
  .finish]

def leadingWith : Pattern := .seq .start (saidThen ["with"])

def detectModifierUpdate (msgText : String) (cart : List Cart.Line) : Option (String × Nat) :=
  (matchAt Text.isWordChar modifierPattern [] (text.strip msgText).toList).bind fun m =>
    (cart.findIdx? (refersTo text (captured text m 2))).map fun i =>
      (without leadingWith (captured text m 1), i)

def ingredientWords : List String := [
  "tomato", "tomatoes", "onion", "onions", "lettuce", "cheese", "cheeses",
  "sauce", "sauces", "mayo", "mayonnaise", "pickle", "pickles",
  "jalapeno", "jalapenos", "jalapeño", "pepper", "peppers",
  "chili", "chilli", "chillies", "chilies",
  "bacon", "avocado", "avo", "egg", "eggs", "pineapple", "garlic", "butter",
  "spice", "spices", "spicy", "salt", "vinegar", "mustard", "ketchup",
  "bbq", "relish", "coleslaw", "slaw", "mushroom", "mushrooms",
  "cucumber", "sprouts", "seasoning"]

def drinkWords : List String := ["cola", "coffee", "juice", "water", "drink", "coke"]

def isFood (line : Cart.Line) : Bool :=
  !drinkWords.any (Cart.contains (text.lower line.name))

def targetPattern : Pattern := inOrder [
  oneOf [
    .seq (saidThen ["take"]) (anyOf [["out"], ["off"], ["away"]]),
    .seq (saidThen ["leave"]) (anyOf [["out"], ["off"]]),
    lit "remove",
    lit "drop",
    inOrder [dont, gap, anyOf [["put"], ["add"], ["include"], ["want"]]],
    lit "no",
    lit "without"],
  gap,
  .group 1 (.seq (plus wordChar) (upTo (inOrder [
    gap,
    .notBefore (.seq (anyOf [["from"], ["on"], ["in"], ["for"], ["the"], ["my"], ["a"], ["an"]])
      .boundary),
    plus wordChar]) 3)),
  opt (inOrder [gap, anyOf [["from"], ["on"], ["in"], ["for"]], gap, plus any]),
  .finish]

-- What the shortest match captures up to the end of a line is what the longest one does.
def referencePattern : Pattern := inOrder [
  anyOf [["from"], ["on"], ["for"], ["in"]],
  gap,
  opt (anyThen [["the"], ["my"]]),
  .group 1 (plus any),
  .finish]

def stopWords : List String := ["the", "a", "an", "my", "some"]

def targetWords (msgLower : String) : List String :=
  match found targetPattern msgLower with
  | none => []
  | some m => (text.words (captured text m 1)).filter (!stopWords.contains ·)

def isIngredient (words : List String) : Bool :=
  words.any ingredientWords.contains || (words.length = 1 && words.all fun w => 3 ≤ w.length)

def namesMenuItem (menuItemNames : List String) (words : List String) : Bool :=
  words.any fun w => menuItemNames.any (fun name => (text.words (text.lower name)).contains w) &&
    4 < w.length

def referredLine (msgLower : String) (cart : List Cart.Line) : Option Nat :=
  (found referencePattern msgLower).bind fun m => cart.findIdx? (refersTo text (captured text m 1))

def soleLine (cart : List Cart.Line) : Option Nat := if cart.length = 1 then some 0 else none

def detectIngredientModifierFromRemove (msgText : String) (cart : List Cart.Line)
    (menuItemNames : List String) : Option (String × Nat) :=
  let msgLower := lowered text msgText
  let words := targetWords text msgLower
  if words = [] ∨ namesMenuItem text menuItemNames words ∨ ¬ isIngredient words then none
  else
    (((referredLine text msgLower cart).or (cart.findIdx? (isFood text))).or (soleLine cart)).map
      fun i => ("no " ++ " ".intercalate (words.take 3), i)

def removalPattern : Pattern := .seq .boundary (oneOf [
  said ["leave", "out"],
  said ["take", "out"],
  said ["take", "off"],
  said ["take", "away"],
  lit "remove",
  lit "without",
  .seq (saidThen ["no"]) wordChar])

def restorePattern : Pattern := .seq
  (oneOf [
    inOrder [
      opt (saidThen ["actually"]),
      anyThen [["leave"], ["keep"], ["include"], ["want"]],
      opt (anyThen [["the"], ["a"], ["an"]])],
    .seq (anyThen [["add"], ["put"]]) (opt (anyThen [["the"], ["a"], ["an"]])),
    inOrder [opt (saidThen ["actually"]), saidThen ["with"], opt (saidThen ["the"])]])
  (.group 1 (phrase 1))

def trailingBack : Pattern := inOrder [gap, lit "back", .finish]

def restoredIngredient (m : Found) : String :=
  text.strip (without trailingBack (captured text m 1))

def lacks (ingredient : String) (line : Cart.Line) : Bool :=
  let instructions := text.lower (line.specialInstructions.getD "")
  Cart.contains instructions ("no " ++ ingredient) || Cart.contains instructions ingredient

def detectModifierReversal (msgText : String) (cart : List Cart.Line) : Option (String × Nat) :=
  let msgLower := lowered text msgText
  if (found removalPattern msgLower).isSome then none
  else
    (findAll Text.isWordChar restorePattern msgLower.toList).findSome? fun m =>
      let ingredient := restoredIngredient text m
      if ingredient.length < 3 then none
      else (cart.findIdx? (lacks text ingredient)).map fun i => (ingredient, i)

def removalSignal : Pattern := inOrder [
  .boundary,
  anyOf [["remove"], ["take", "off"], ["take", "out"], ["delete"], ["instead", "of"], ["replace"],
    ["swap"], ["without"]],
  .boundary]

variable (addOnsFor : Uuid → List Llm.Available)

-- The add-ons of a line's menu item that a message names and the line does not have yet.
def namedAddOns (msgLower : String) (line : Cart.Line) : List Llm.Available :=
  (addOnsFor line.menuItemId).filter fun addOn =>
    Cart.contains msgLower (text.lower addOn.name) &&
      !line.addOns.any fun old => text.lower old.name = text.lower addOn.name

def addOnCandidates (msgLower : String) (cart : List Cart.Line) : List (Llm.Available × Nat) :=
  (cart.zipIdx.map fun entry =>
    (namedAddOns text addOnsFor msgLower entry.1).map fun addOn => (addOn, entry.2)).flatten

def detectAddonAddition (normText : String) (cart : List Cart.Line) :
    Option (SelectedAddOn × Nat) :=
  let msgLower := lowered text normText
  if (found removalSignal msgLower).isSome then none
  else
    match addOnCandidates text addOnsFor msgLower cart with
    | [(addOn, i)] => some (Llm.selectedAddOn addOn addOn.defaultQty, i)
    | _ => none

def compoundSignal : Pattern := inOrder [
  .boundary,
  oneOf [
    .seq (saidThen ["and"]) (anyOf [["add"], ["give"], ["give", "me"], ["include"]]),
    said ["and", "instead"],
    said ["plus", "add"]],
  .boundary]

def addOnRemovalPattern : Pattern := inOrder [
  anyThen [["remove"], ["take", "off"], ["take", "out"], ["drop"], ["delete"]],
  opt (saidThen ["the"]),
  .group 1 (phrase 3)]

def trailingReference : Pattern := inOrder [
  gap, anyOf [["from"], ["on"], ["in"], ["for"]], gap, .many any, .finish]

def leadingArticle : Pattern := .seq .start (anyThen [["the"], ["a"], ["an"]])

def removedAddOn (m : Found) : String :=
  text.strip (without leadingArticle
    (text.strip (without trailingReference (captured text m 1))))

-- Two names of which one is part of the other.
def alike (name other : String) : Bool := Cart.contains other name || Cart.contains name other

def addOnNamed (target : String) (line : Cart.Line) : Option String :=
  (line.addOns.find? fun addOn => alike (text.lower addOn.name) target).map (·.name)

def firstWith {α : Type} (f : Cart.Line → Option α) (cart : List Cart.Line) : Option (α × Nat) :=
  cart.zipIdx.findSome? fun entry => (f entry.1).map fun a => (a, entry.2)

def detectAddonRemoval (normText : String) (cart : List Cart.Line) : Option (String × Nat) :=
  let msgLower := lowered text normText
  if (found compoundSignal msgLower).isSome then none
  else
    (found addOnRemovalPattern msgLower).bind fun m =>
      if removedAddOn text m = "" then none
      else firstWith (addOnNamed text (removedAddOn text m)) cart

def compoundRemovePattern : Pattern := inOrder [
  anyThen [["remove"], ["take", "off"], ["take", "out"], ["drop"], ["delete"], ["without"],
    ["swap"], ["change"], ["replace"]],
  opt (saidThen ["the"]),
  .group 1 (phrase 3)]

def compoundAddPattern : Pattern := inOrder [
  oneOf [
    .seq (saidThen ["and"])
      (anyOf [["add"], ["give"], ["give", "me"], ["include"], ["with"], ["get"]]),
    inOrder [anyOf [["instead"], ["for"], ["with"], ["to"]], gap, opt (saidThen ["the"])]],
  gaps,
  .group 1 (phrase 3)]

def withoutReference (m : Found) : String := text.strip (without trailingReference (group m 1))

def swappedAddOns (removed added : String) (line : Cart.Line) : Option (String × SelectedAddOn) :=
  let available := Llm.dictOf ((addOnsFor line.menuItemId).map fun addOn =>
    (text.lower addOn.name, addOn))
  (addOnNamed text removed line).bind fun name =>
    (available.find? fun entry => alike entry.1 added).map fun entry =>
      (name, Llm.selectedAddOn entry.2 entry.2.defaultQty)

def detectCompoundAddonEdit (normText : String) (cart : List Cart.Line) :
    Option ((String × SelectedAddOn) × Nat) :=
  let msgLower := lowered text normText
  (found compoundRemovePattern msgLower).bind fun remove =>
    (found compoundAddPattern msgLower).bind fun add =>
      if withoutReference text remove = "" ∨ withoutReference text add = "" then none
      else firstWith
        (swappedAddOns text addOnsFor (withoutReference text remove) (withoutReference text add))
        cart

end Detectors

-- The string operations as they are on texts in ASCII.
def asciiText : Cart.Text where
  lower := fun s => String.ofList (s.toList.map Char.toLower)
  strip := fun s => String.ofList (Text.strip s.toList)
  words := fun s => (Text.words s.toList).map String.ofList
  strip_infix := fun s => by simpa using Text.strip_sublist

end NextgenBackend.Bot.Detectors
