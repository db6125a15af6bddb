import NextgenBackend.Library.Regex
import NextgenBackend.Library.Text

namespace NextgenBackend.Normalizer

open Regex Text

-- The letter that a character is the same as where the case is ignored.
def fold (c : Char) : Char :=
  if 'A' ≤ c ∧ c ≤ 'Z' then Char.ofNat (c.toNat + 32)
  else if c.toNat = 0x130 ∨ c.toNat = 0x131 then 'i'
  else if c.toNat = 0x17F then 's'
  else if c.toNat = 0x212A then 'k'
  else c

def literal (s : String) : Regex := spelled fold s.toList

inductive Replacement where
  | text (s : String)
  | captured

def Replacement.expand : Replacement → List Char → List Char
  | .text s, _ => s.toList
  | .captured, found => found

structure Rule where
  pattern : Regex
  replacement : Replacement

def addRaw (pattern : Regex) (replacement : Replacement) : Rule := ⟨pattern, replacement⟩

def add (pattern : Regex) (replacement : String) : Rule :=
  addRaw (.seq .boundary (.seq pattern .boundary)) (.text replacement)

def punctuationRules : List Rule := [
  addRaw (.seq .boundary (.seq (literal "w/o") .boundary)) (.text "without"),
  addRaw (.seq .boundary (.seq (literal "w/") (.ahead isSpace))) (.text "with ")]

def wordRules : List Rule := [
  add (literal "xtra") "extra",
  add (.seq (literal "chee") (.plus fun c => fold c = 'z')) "cheese",
  add (literal "tamato") "tomato",
  add (literal "tamarto") "tomato",
  add (literal "tamoto") "tomato",
  add (literal "onyon") "onion",
  add (literal "peper") "pepper",
  add (literal "saace") "sauce",
  add (literal "saus") "sauce",
  add (literal "wit") "with",
  add (literal "wid") "with",
  add (literal "wout") "without",
  add (literal "da") "the",
  add (literal "cn") "can",
  add (literal "cud") "could",
  add (literal "dnt") "don't",
  addRaw (.seq .boundary (.seq (literal "dont") .boundary)) (.text "don't"),
  add (literal "pls") "please",
  add (literal "plz") "please",
  add (literal "gimme") "give me",
  add (literal "lemme") "let me",
  add (literal "wanna") "want",
  add (literal "sho") "sure",
  add (literal "aight") "ok",
  add (literal "aiight") "ok",
  add (literal "kk") "ok"]

def orderingVerb : Regex := .alt (literal "add") (.alt (literal "put") (literal "include"))

def alsoRules : List Rule := [
  addRaw (.seq .boundary (.seq (literal "also") (.seq (.plus isSpace)
    (.seq (.group orderingVerb) .boundary)))) .captured]

def rules : List Rule := punctuationRules ++ wordRules ++ alsoRules

def Rule.apply (rule : Rule) (text : List Char) : List Char :=
  sub isWordChar rule.pattern rule.replacement.expand 0 none text

def isBlank (c : Char) : Bool := c = ' ' || c = '\t'

def collapse (text : List Char) : List Char :=
  sub isWordChar (twoOrMore isBlank) (fun _ => [' ']) 0 none text

def normalizeText (text : List Char) : List Char :=
  if text = [] then text
  else rules.foldl (fun result rule => rule.apply result) (collapse (strip text))

def normalize (text : String) : String := String.ofList (normalizeText text.toList)

example : normalize " w/o  tamato pls, w/\tdont" = "without tomato please, with \tdon't" := by
  decide +kernel

end NextgenBackend.Normalizer
