import Mathlib
import NextgenBackend.Library.Numerals
import NextgenBackend.Library.Text

-- Dates and times read and written by a format, as the standard library of Python reads them: a
-- format is an expression whose fields have a few forms each, tried in order.
namespace Strptime

open Text Numerals

inductive Class where
  | same (c : Char)
  | digit
  | within (low high : Fin 10)
deriving DecidableEq

-- The case of letters is ignored.
def Class.holds : Class → Char → Bool
  | .same c, d => d.toLower = c.toLower
  | .digit, d => isDigit d
  | .within low high, d => 48 + low.val ≤ d.toNat && d.toNat ≤ 48 + high.val

inductive Field where
  | year
  | month
  | day
  | hour
  | minute
  | second
  | shortMonth
  | longMonth
deriving DecidableEq

def monthNames : List String :=
  ["january", "february", "march", "april", "may", "june", "july", "august", "september",
    "october", "november", "december"]

def shortNames : List String := monthNames.map fun name => String.ofList (name.toList.take 3)

-- Longer names are tried first.
def longestFirst : List String :=
  ["september", "february", "november", "december", "january", "october", "august", "march",
    "april", "june", "july", "may"]

def spelling (name : String) : List Class := name.toList.map .same

def Field.forms : Field → List (List Class)
  | .year => [[.digit, .digit, .digit, .digit]]
  | .month => [[.within 1 1, .within 0 2], [.within 0 0, .within 1 9], [.within 1 9]]
  | .day => [[.within 3 3, .within 0 1], [.within 1 2, .digit], [.within 0 0, .within 1 9],
      [.within 1 9], [.same ' ', .within 1 9]]
  | .hour => [[.within 2 2, .within 0 3], [.within 0 1, .digit], [.digit]]
  | .minute => [[.within 0 5, .digit], [.digit]]
  | .second => [[.within 6 6, .within 0 1], [.within 0 5, .digit], [.digit]]
  | .shortMonth => shortNames.map spelling
  | .longMonth => longestFirst.map spelling

inductive Token where
  | field (f : Field)
  | blank
  | char (c : Char)
deriving DecidableEq

def directive : Char → Option Field
  | 'Y' => some .year
  | 'm' => some .month
  | 'd' => some .day
  | 'H' => some .hour
  | 'M' => some .minute
  | 'S' => some .second
  | 'b' => some .shortMonth
  | 'B' => some .longMonth
  | _ => none

-- Of the directives only these have a place here. White space of any length is one blank.
def tokens : List Char → Option (List Token)
  | [] => some []
  | '%' :: c :: cs => (directive c).bind fun f => (tokens cs).map (.field f :: ·)
  | c :: cs =>
      if isSpace c then
        if cs.head?.any isSpace then tokens cs else (tokens cs).map (.blank :: ·)
      else (tokens cs).map (.char c :: ·)

-- What a form takes of a text, and what it leaves.
def cut : List Class → List Char → Option (List Char × List Char)
  | [], text => some ([], text)
  | _ :: _, [] => none
  | p :: form, c :: text =>
      if p.holds c then (cut form text).map fun (taken, left) => (c :: taken, left) else none

def blanks : List Char → List (List Char)
  | [] => []
  | c :: text => if isSpace c then blanks text ++ [text] else []

abbrev Captures := List (Field × List Char)

-- Where a match of the format can stop, in the order in which the matcher tries them.
def ends : List Token → List Char → List (Captures × List Char)
  | [], text => [([], text)]
  | .field f :: ts, text =>
      (f.forms.filterMap (cut · text)).flatMap fun (taken, left) =>
        (ends ts left).map fun (captures, stop) => ((f, taken) :: captures, stop)
  | .blank :: ts, text => (blanks text).flatMap (ends ts)
  | .char c :: ts, text => ((cut [.same c] text).toList.map (·.2)).flatMap (ends ts)

-- The first match is the only one: what it leaves unread is an error.
def read (ts : List Token) (text : List Char) : Option Captures :=
  match (ends ts text).head? with
  | some (captures, []) => some captures
  | _ => none

structure Moment where
  year : ℕ := 1900
  month : ℕ := 1
  day : ℕ := 1
  hour : ℕ := 0
  minute : ℕ := 0
  second : ℕ := 0
deriving DecidableEq

def number (text : List Char) : ℕ :=
  text.foldl (fun n c => 10 * n + (digitValue c).getD 0) 0

def nameIndex (names : List String) (text : List Char) : ℕ :=
  names.idxOf (String.ofList (text.map Char.toLower)) + 1

def Moment.set (moment : Moment) : Field × List Char → Moment
  | (.year, text) => { moment with year := number text }
  | (.month, text) => { moment with month := number text }
  | (.day, text) => { moment with day := number (text.dropWhile isSpace) }
  | (.hour, text) => { moment with hour := number text }
  | (.minute, text) => { moment with minute := number text }
  | (.second, text) => { moment with second := number text }
  | (.shortMonth, text) => { moment with month := nameIndex shortNames text }
  | (.longMonth, text) => { moment with month := nameIndex monthNames text }

def parse (format : List Char) (text : List Char) : Option Moment :=
  (tokens format).bind fun ts => (read ts text).map fun captures => captures.foldl Moment.set {}

section Writing

def titled (name : String) : List Char :=
  match name.toList with
  | [] => []
  | c :: cs => c.toUpper :: cs

def Field.written (moment : Moment) : Field → List Char
  | .year => decimal.written 4 moment.year
  | .month => decimal.written 2 moment.month
  | .day => decimal.written 2 moment.day
  | .hour => decimal.written 2 moment.hour
  | .minute => decimal.written 2 moment.minute
  | .second => decimal.written 2 moment.second
  | .shortMonth => titled (shortNames.getD (moment.month - 1) "")
  | .longMonth => titled (monthNames.getD (moment.month - 1) "")

def Token.written (moment : Moment) : Token → List Char
  | .field f => f.written moment
  | .blank => [' ']
  | .char c => [c]

def written (moment : Moment) (ts : List Token) : List Char := ts.flatMap (Token.written moment)

end Writing

section Shapes

variable {c : Char} {p : Class} {f : Field} {ts : List Token} {form : List Class}
  {text taken left stop rest : List Char} {captures : Captures} {moment : Moment}

def IsLetter (c : Char) : Prop := 65 ≤ c.toNat ∧ c.toNat ≤ 90 ∨ 97 ≤ c.toNat ∧ c.toNat ≤ 122

instance : DecidablePred IsLetter := fun c =>
  inferInstanceAs (Decidable (65 ≤ c.toNat ∧ c.toNat ≤ 90 ∨ 97 ≤ c.toNat ∧ c.toNat ≤ 122))

-- What a format can tell of a character.
def symbol (c : Char) : Char :=
  if IsLetter c then c.toLower else if isDigit c then '0' else if isSpace c then ' ' else c

def Class.symbol : Class → Char
  | .same c => Strptime.symbol c
  | .digit => '0'
  | .within _ _ => '0'

def blankShapes : List Char → List (List Char)
  | [] => []
  | c :: text => if c = ' ' then blankShapes text ++ [text] else []

-- Whether a text of this shape may be a match of the format up to its end.
def admits : List Token → List Char → Bool
  | [], shape => shape.isEmpty
  | .field f :: ts, shape =>
      f.forms.any fun form =>
        (form.map Class.symbol).isPrefixOf shape && admits ts (shape.drop form.length)
  | .blank :: ts, shape => (blankShapes shape).any (admits ts)
  | .char c :: ts, shape => shape.head? = some (symbol c) && admits ts shape.tail

theorem isDigit_of_ascii (h : 48 ≤ c.toNat ∧ c.toNat ≤ 57) : isDigit c = true := by
  unfold isDigit digitValue
  rw [Option.isSome_map, List.find?_isSome]
  exact ⟨0x30, by decide, decide_eq_true (by omega)⟩

theorem isDigit_point (h : isDigit c = true) : ∃ first ∈ zeros, ∃ d < 10, c.toNat = first + d := by
  obtain ⟨d, hd⟩ := Option.isSome_iff_exists.mp h
  obtain ⟨first, hfirst, hpoint, hlt⟩ := digitValue_point hd
  exact ⟨first, hfirst, d, hlt, hpoint⟩

theorem symbol_of_isDigit (h : isDigit c = true) : symbol c = '0' := by
  have hletter : ¬ IsLetter c := by
    intro hletter
    obtain ⟨first, hfirst, d, hd, hpoint⟩ := isDigit_point h
    have hzeros : ∀ first ∈ zeros, first + 9 < 65 ∨ 122 < first := by decide
    have hzero := hzeros first hfirst
    unfold IsLetter at hletter
    omega
  rw [symbol, if_neg hletter, if_pos h]

theorem symbol_of_isSpace (h : isSpace c = true) : symbol c = ' ' := by
  have hletter : ¬ IsLetter c := by
    intro hletter
    have hpoints : ∀ n ∈ spacePoints, n < 65 ∨ 122 < n := by decide
    have hpoint := hpoints c.toNat (mem_spacePoints h)
    unfold IsLetter at hletter
    omega
  have hdigit : isDigit c ≠ true := fun hdigit => by
    rw [not_isSpace_of_isDigit hdigit] at h
    cases h
  rw [symbol, if_neg hletter, if_neg hdigit, if_pos h]

theorem toNat_toLower :
    c.toLower.toNat = if 65 ≤ c.toNat ∧ c.toNat ≤ 90 then c.toNat + 32 else c.toNat := by
  have hrange : ('A'.val ≤ c.val ∧ c.val ≤ 'Z'.val) ↔ 65 ≤ c.toNat ∧ c.toNat ≤ 90 := by
    rw [UInt32.le_iff_toNat_le, UInt32.le_iff_toNat_le]
    rfl
  unfold Char.toLower
  by_cases h : 65 ≤ c.toNat ∧ c.toNat ≤ 90
  · rw [if_pos h, dif_pos (hrange.mpr h)]
    have hsum : (c.val + ('a'.val - 'A'.val)).toNat = (c.val.toNat + 32) % 2 ^ 32 :=
      UInt32.toNat_add _ _
    have hsize : c.val.toNat ≤ 90 := h.2
    exact hsum.trans (Nat.mod_eq_of_lt (by omega))
  · rw [if_neg h, dif_neg (fun hupper => h (hrange.mp hupper))]

-- Characters that differ in case only are letters.
theorem eq_or_isLetter {d : Char} (h : d.toLower = c.toLower) :
    d = c ∨ IsLetter d ∧ IsLetter c := by
  have hcodes := congrArg Char.toNat h
  rw [toNat_toLower, toNat_toLower] at hcodes
  by_cases hsame : d.toNat = c.toNat
  · exact .inl (Char.toNat_inj.mp hsame)
  · right
    unfold IsLetter
    split at hcodes <;> split at hcodes <;> omega

theorem symbol_of_holds (h : p.holds c = true) : symbol c = p.symbol := by
  cases p with
  | same d =>
      have hlower : c.toLower = d.toLower := of_decide_eq_true h
      rcases eq_or_isLetter hlower with rfl | ⟨hc, hd⟩
      · rfl
      · rw [Class.symbol, symbol, symbol, if_pos hc, if_pos hd, hlower]
  | digit => exact symbol_of_isDigit h
  | within low high =>
      have hrange : 48 + low.val ≤ c.toNat ∧ c.toNat ≤ 48 + high.val := by simpa [Class.holds] using h
      exact symbol_of_isDigit (isDigit_of_ascii (by omega))

theorem cut_spec (h : cut form text = some (taken, left)) :
    text = taken ++ left ∧ taken.map symbol = form.map Class.symbol := by
  induction form generalizing text taken with
  | nil =>
      obtain ⟨rfl, rfl⟩ := Prod.mk.inj (Option.some.inj h)
      exact ⟨rfl, rfl⟩
  | cons p form ih =>
      cases text with
      | nil => cases h
      | cons c text =>
          rw [cut] at h
          split at h
          next hp =>
            obtain ⟨⟨taken', left'⟩, hcut, heq⟩ := Option.map_eq_some_iff.mp h
            obtain ⟨rfl, rfl⟩ := Prod.mk.inj heq
            obtain ⟨rfl, hshape⟩ := ih hcut
            refine ⟨rfl, ?_⟩
            rw [List.map_cons, List.map_cons, hshape, symbol_of_holds hp]
          next => cases h

theorem blankShapes_of_mem (h : left ∈ blanks text) : left.map symbol ∈ blankShapes (text.map symbol) := by
  induction text with
  | nil => cases h
  | cons c text ih =>
      rw [blanks] at h
      split at h
      next hc =>
        rw [List.map_cons, blankShapes, if_pos (symbol_of_isSpace hc)]
        rcases List.mem_append.mp h with h | h
        · exact List.mem_append_left _ (ih h)
        · obtain rfl := List.mem_singleton.mp h
          exact List.mem_append_right _ List.mem_cons_self
      next => cases h

-- Only a text of an admitted shape is read to its end.
theorem admits_of_mem_ends (h : (captures, []) ∈ ends ts text) :
    admits ts (text.map symbol) = true := by
  induction ts generalizing text captures with
  | nil =>
      obtain ⟨-, rfl⟩ := Prod.mk.inj (List.mem_singleton.mp h)
      rfl
  | cons t ts ih =>
      cases t with
      | field f =>
          obtain ⟨⟨taken, left⟩, htaken, hmem⟩ := List.mem_flatMap.mp h
          obtain ⟨form, hform, hcut⟩ := List.mem_filterMap.mp htaken
          obtain ⟨⟨others, stop⟩, hstop, heq⟩ := List.mem_map.mp hmem
          obtain ⟨-, rfl⟩ := Prod.mk.inj heq
          obtain ⟨rfl, hshape⟩ := cut_spec hcut
          refine List.any_eq_true.mpr ⟨form, hform, ?_⟩
          have hlength : form.length = taken.length := by
            have hlengths := congrArg List.length hshape
            rw [List.length_map, List.length_map] at hlengths
            exact hlengths.symm
          rw [List.map_append, ← hshape, Bool.and_eq_true]
          refine ⟨List.isPrefixOf_iff_prefix.mpr (List.prefix_append _ _), ?_⟩
          have hdrop : (taken.map symbol ++ left.map symbol).drop form.length = left.map symbol := by
            rw [hlength, ← List.length_map symbol, List.drop_left]
          rw [hdrop]
          exact ih hstop
      | blank =>
          obtain ⟨left, hleft, hstop⟩ := List.mem_flatMap.mp h
          exact List.any_eq_true.mpr ⟨_, blankShapes_of_mem hleft, ih hstop⟩
      | char c =>
          obtain ⟨left, hleft, hstop⟩ := List.mem_flatMap.mp h
          obtain ⟨⟨taken, left'⟩, hcut, rfl⟩ := List.mem_map.mp hleft
          obtain ⟨rfl, hshape⟩ := cut_spec (Option.mem_toList.mp hcut)
          obtain ⟨d, rest, rfl, hd, hrest⟩ := List.map_eq_cons_iff.mp hshape
          obtain rfl := List.map_eq_nil_iff.mp hrest
          rw [admits, Bool.and_eq_true]
          exact ⟨decide_eq_true (congrArg some hd), ih hstop⟩

theorem read_eq_none (h : admits ts (text.map symbol) = false) : read ts text = none := by
  unfold read
  split
  next captures hread =>
    rw [admits_of_mem_ends (List.mem_of_head? hread)] at h
    cases h
  next => rfl

end Shapes

section RoundTrip

variable {f : Field} {ts : List Token} {form : List Class} {text rest : List Char}
  {moment acc : Moment} {width n : ℕ}

structure Moment.Proper (moment : Moment) : Prop where
  year_lt : moment.year < 10000
  month_range : 1 ≤ moment.month ∧ moment.month ≤ 12
  day_range : 1 ≤ moment.day ∧ moment.day ≤ 31
  hour_lt : moment.hour < 24
  minute_lt : moment.minute < 60
  second_lt : moment.second < 60

def Field.shape (month : ℕ) : Field → List Char
  | .year => ['0', '0', '0', '0']
  | .shortMonth => (shortNames.getD (month - 1) "").toList
  | .longMonth => (monthNames.getD (month - 1) "").toList
  | _ => ['0', '0']

def Token.shape (month : ℕ) : Token → List Char
  | .field f => f.shape month
  | .blank => [' ']
  | .char c => [symbol c]

def shape (month : ℕ) (ts : List Token) : List Char := ts.flatMap (Token.shape month)

theorem digits_spec : ∀ c ∈ decimal.digits,
    symbol c = '0' ∧ isDigit c = true ∧ isSpace c = false ∧
      (digitValue c).getD 0 = decimal.digits.idxOf c := by
  have hall : (decimal.digits.all fun c => symbol c = '0' ∧ isDigit c = true ∧ isSpace c = false ∧
      (digitValue c).getD 0 = decimal.digits.idxOf c) = true := by decide +kernel
  exact fun c hc => of_decide_eq_true (List.all_eq_true.mp hall c hc)

theorem map_symbol_digits : (decimal.written width n).map symbol = List.replicate width '0' := by
  refine List.eq_replicate_iff.mpr ⟨?_, fun c hc => ?_⟩
  · rw [List.length_map, Base.length_written]
  · obtain ⟨d, hd, rfl⟩ := List.mem_map.mp hc
    exact (digits_spec d (Base.mem_written hd)).1

theorem names_spec : ∀ month < 13, 1 ≤ month →
    (titled (shortNames.getD (month - 1) "")).map symbol =
        (shortNames.getD (month - 1) "").toList ∧
      (titled (monthNames.getD (month - 1) "")).map symbol =
        (monthNames.getD (month - 1) "").toList ∧
      nameIndex shortNames (titled (shortNames.getD (month - 1) "")) = month ∧
      nameIndex monthNames (titled (monthNames.getD (month - 1) "")) = month := by
  decide +kernel

theorem written_cons {t : Token} :
    written moment (t :: ts) = t.written moment ++ written moment ts := List.flatMap_cons

theorem map_symbol_written (h : moment.Proper) :
    (written moment ts).map symbol = shape moment.month ts := by
  have hnames := names_spec moment.month (Nat.lt_succ_of_le h.month_range.2) h.month_range.1
  induction ts with
  | nil => rfl
  | cons t ts ih =>
      have htoken : (t.written moment).map symbol = t.shape moment.month := by
        cases t with
        | blank => rfl
        | char c => rfl
        | field f =>
            cases f with
            | shortMonth => exact hnames.1
            | longMonth => exact hnames.2.1
            | year => exact map_symbol_digits
            | month => exact map_symbol_digits
            | day => exact map_symbol_digits
            | hour => exact map_symbol_digits
            | minute => exact map_symbol_digits
            | second => exact map_symbol_digits
      rw [written_cons, List.map_append, htoken, ih, shape, shape, List.flatMap_cons]

-- What comes behind the text does not matter to the form.
def settled (form : List Class) (text : List Char) : Bool :=
  form.length ≤ text.length || (form.zip text).any fun (p, c) => !p.holds c

theorem cut_append (h : settled form text = true) :
    cut form (text ++ rest) = (cut form text).map fun (taken, left) => (taken, left ++ rest) := by
  induction form generalizing text with
  | nil => rfl
  | cons p form ih =>
      cases text with
      | nil => cases h
      | cons c text =>
          rw [List.cons_append, cut, cut]
          by_cases hp : p.holds c = true
          · have hrest : settled form text = true := by
              simpa [settled, hp] using h
            rw [if_pos hp, if_pos hp, ih hrest, Option.map_map, Option.map_map]
            rfl
          · rw [if_neg hp, if_neg hp]
            rfl

def firstCut (f : Field) (text : List Char) : Option (List Char × List Char) :=
  (f.forms.filterMap (cut · text)).head?

theorem firstCut_append (h : f.forms.all (settled · text) = true) :
    firstCut f (text ++ rest) =
      (firstCut f text).map fun (taken, left) => (taken, left ++ rest) := by
  have hcuts : f.forms.filterMap (cut · (text ++ rest)) =
      (f.forms.filterMap (cut · text)).map fun (taken, left) => (taken, left ++ rest) := by
    rw [List.map_filterMap]
    exact List.filterMap_congr fun form hform => cut_append (List.all_eq_true.mp h form hform)
  rw [firstCut, hcuts, List.head?_map]
  rfl

theorem cut_digits (h : ∀ c ∈ text, isDigit c = true) :
    cut (List.replicate text.length .digit) (text ++ rest) = some (text, rest) := by
  induction text with
  | nil => rfl
  | cons c text ih =>
      have hc : Class.digit.holds c = true := h c List.mem_cons_self
      rw [List.length_cons, List.replicate_succ, List.cons_append, cut, if_pos hc,
        ih fun d hd => h d (List.mem_cons_of_mem _ hd)]
      rfl

def readsBack (f : Field) (text : List Char) : Bool :=
  f.forms.all (settled · text) && firstCut f text = some (text, [])

theorem firstCut_of_readsBack (h : readsBack f text = true) :
    firstCut f (text ++ rest) = some (text, rest) := by
  obtain ⟨hsettled, hcut⟩ := Bool.and_eq_true_iff.mp h
  rw [firstCut_append hsettled, of_decide_eq_true hcut]
  rfl

theorem values_readBack :
    (∀ n < 13, 1 ≤ n → readsBack .month (decimal.written 2 n) = true) ∧
      (∀ n < 32, 1 ≤ n → readsBack .day (decimal.written 2 n) = true) ∧
      (∀ n < 24, readsBack .hour (decimal.written 2 n) = true) ∧
      (∀ n < 60, readsBack .minute (decimal.written 2 n) = true) ∧
      (∀ n < 60, readsBack .second (decimal.written 2 n) = true) ∧
        ∀ n < 13, 1 ≤ n →
          readsBack .shortMonth (titled (shortNames.getD (n - 1) "")) = true ∧
            readsBack .longMonth (titled (monthNames.getD (n - 1) "")) = true := by
  decide +kernel

theorem firstCut_written (h : moment.Proper) :
    firstCut f (f.written moment ++ rest) = some (f.written moment, rest) := by
  obtain ⟨hmonth, hday, hhour, hminute, hsecond, hnames⟩ := values_readBack
  replace hnames := hnames moment.month (Nat.lt_succ_of_le h.month_range.2) h.month_range.1
  cases f with
  | year =>
      have hdigits := @cut_digits (decimal.written 4 moment.year) rest fun c hc =>
        (digits_spec c (@Base.mem_written decimal 4 moment.year c hc)).2.1
      rw [Base.length_written] at hdigits
      have hforms : firstCut .year (Field.year.written moment ++ rest) =
          (cut (List.replicate 4 .digit) (decimal.written 4 moment.year ++ rest)).toList.head? := by
        rw [firstCut, Field.forms, List.filterMap_cons]
        rfl
      rw [hforms, hdigits]
      rfl
  | month =>
      exact firstCut_of_readsBack
        (hmonth _ (Nat.lt_succ_of_le h.month_range.2) h.month_range.1)
  | day => exact firstCut_of_readsBack (hday _ (Nat.lt_succ_of_le h.day_range.2) h.day_range.1)
  | hour => exact firstCut_of_readsBack (hhour _ h.hour_lt)
  | minute => exact firstCut_of_readsBack (hminute _ h.minute_lt)
  | second => exact firstCut_of_readsBack (hsecond _ h.second_lt)
  | shortMonth => exact firstCut_of_readsBack hnames.1
  | longMonth => exact firstCut_of_readsBack hnames.2

theorem head_flatMap {α β : Type} {xs : List α} {g : α → List β} {a : α} {b : β}
    (ha : xs.head? = some a) (hb : (g a).head? = some b) : (xs.flatMap g).head? = some b := by
  obtain ⟨xs, rfl⟩ := List.head?_eq_some_iff.mp ha
  obtain ⟨ys, hys⟩ := List.head?_eq_some_iff.mp hb
  rw [List.flatMap_cons, hys]
  rfl

-- Nothing that begins with white space stands behind a blank.
def spaced (month : ℕ) : List Token → Bool
  | [] => true
  | .blank :: ts => (shape month ts).head? ≠ some ' ' && spaced month ts
  | _ :: ts => spaced month ts

theorem blanks_of_head (h : (text.map symbol).head? ≠ some ' ') : blanks (' ' :: text) = [text] := by
  have hnone : blanks text = [] := by
    cases text with
    | nil => rfl
    | cons c text =>
        refine if_neg fun hspace => h ?_
        rw [List.map_cons, symbol_of_isSpace hspace]
        rfl
  rw [blanks, if_pos (by decide), hnone]
  rfl

def captures (moment : Moment) (ts : List Token) : Captures :=
  ts.filterMap fun
    | .field f => some (f, f.written moment)
    | _ => none

theorem head_ends_written (h : moment.Proper) (hspaced : spaced moment.month ts = true) :
    (ends ts (written moment ts)).head? = some (captures moment ts, []) := by
  induction ts with
  | nil => rfl
  | cons t ts ih =>
      cases t with
      | field f =>
          rw [written_cons]
          refine head_flatMap (firstCut_written h) ?_
          rw [List.head?_map, ih hspaced]
          rfl
      | blank =>
          obtain ⟨hhead, hrest⟩ := Bool.and_eq_true_iff.mp hspaced
          have hblanks : blanks (' ' :: written moment ts) = [written moment ts] := by
            refine blanks_of_head ?_
            rw [map_symbol_written h]
            exact of_decide_eq_true hhead
          rw [ends, written_cons]
          change ((blanks (' ' :: written moment ts)).flatMap (ends ts)).head? = _
          rw [hblanks, List.flatMap_singleton]
          exact ih hrest
      | char c =>
          have hcut : cut [.same c] (c :: written moment ts) = some ([c], written moment ts) := by
            have hc : (Class.same c).holds c = true := decide_eq_true rfl
            rw [cut, if_pos hc]
            rfl
          rw [ends, written_cons]
          change ((((cut [.same c] (c :: written moment ts)).toList.map (·.2)).flatMap
            (ends ts)).head?) = _
          rw [hcut]
          refine head_flatMap rfl ?_
          exact ih hspaced

theorem read_written (h : moment.Proper) (hspaced : spaced moment.month ts = true) :
    read ts (written moment ts) = some (captures moment ts) := by
  rw [read, head_ends_written h hspaced]

theorem number_written (h : n < 10 ^ width) : number (decimal.written width n) = n := by
  have hvalue : ∀ text : List Char, (∀ c ∈ text, c ∈ decimal.digits) →
      number text = decimal.value text := by
    intro text htext
    induction text using List.reverseRecOn with
    | nil => rfl
    | append_singleton text c ih =>
        have hc := (digits_spec c (htext c (by simp))).2.2.2
        rw [Base.value_append_singleton, ← ih fun d hd => htext d (List.mem_append_left _ hd),
          number, List.foldl_append, List.foldl_cons, List.foldl_nil, hc]
        rfl
  rw [hvalue _ fun c hc => Base.mem_written hc]
  exact Base.value_written h

def Moment.copy (moment acc : Moment) : Field → Moment
  | .year => { acc with year := moment.year }
  | .month | .shortMonth | .longMonth => { acc with month := moment.month }
  | .day => { acc with day := moment.day }
  | .hour => { acc with hour := moment.hour }
  | .minute => { acc with minute := moment.minute }
  | .second => { acc with second := moment.second }

theorem set_written (h : moment.Proper) :
    acc.set (f, f.written moment) = moment.copy acc f := by
  have htwo {n : ℕ} (hn : n < 100) : number (decimal.written 2 n) = n := number_written hn
  have hnames := names_spec moment.month (Nat.lt_succ_of_le h.month_range.2) h.month_range.1
  have hmonth := h.month_range.2
  have hday := h.day_range.2
  have hhour := h.hour_lt
  have hminute := h.minute_lt
  have hsecond := h.second_lt
  cases f with
  | year => rw [Moment.set, Field.written, number_written h.year_lt, Moment.copy]
  | month => rw [Moment.set, Field.written, htwo (by omega), Moment.copy]
  | day =>
      have hdrop : (decimal.written 2 moment.day).dropWhile isSpace =
          decimal.written 2 moment.day := by
        rw [List.dropWhile_eq_self_iff]
        intro hpos hspace
        rw [(digits_spec _ (Base.mem_written (List.getElem_mem hpos))).2.2.1] at hspace
        cases hspace
      rw [Moment.set, Field.written, hdrop, htwo (by omega), Moment.copy]
  | hour => rw [Moment.set, Field.written, htwo (by omega), Moment.copy]
  | minute => rw [Moment.set, Field.written, htwo (by omega), Moment.copy]
  | second => rw [Moment.set, Field.written, htwo (by omega), Moment.copy]
  | shortMonth => rw [Moment.set, Field.written, hnames.2.2.1, Moment.copy]
  | longMonth => rw [Moment.set, Field.written, hnames.2.2.2, Moment.copy]

-- What a format says of a moment.
def Moment.seen (moment : Moment) (ts : List Token) : Moment :=
  ts.foldl (fun acc t =>
    match t with
    | .field f => moment.copy acc f
    | _ => acc) {}

theorem foldl_captures (h : moment.Proper) :
    (captures moment ts).foldl Moment.set {} = moment.seen ts := by
  unfold captures Moment.seen
  generalize ({} : Moment) = acc
  induction ts generalizing acc with
  | nil => rfl
  | cons t ts ih =>
      cases t with
      | field f =>
          rw [List.filterMap_cons, List.foldl_cons, List.foldl_cons, set_written h]
          exact ih _
      | blank => exact ih acc
      | char c => exact ih acc

theorem parse_written {format : List Char} (hformat : tokens format = some ts)
    (h : moment.Proper) (hspaced : spaced moment.month ts = true) :
    parse format (written moment ts) = some (moment.seen ts) := by
  rw [parse, hformat, Option.bind_some, read_written h hspaced, Option.map_some, foldl_captures h]

theorem parse_eq_none {format : List Char} (hformat : tokens format = some ts)
    (h : admits ts (text.map symbol) = false) : parse format text = none := by
  rw [parse, hformat, Option.bind_some, read_eq_none h]
  rfl

end RoundTrip

end Strptime
