import NextgenBackend.Core.Pagination
import NextgenBackend.ExternalOrders.Adapters
import NextgenBackend.Library.Strptime

namespace NextgenBackend.ExternalOrders.ReportDates

open Adapters Numerals Pagination Strptime Text

section Reading

variable {T : Type}

-- The text that the formats are tried on.
def rawText (dateText timeText : Option String) : List Char :=
  let raw := strip (dateText.getD "").toList
  let time := strip (timeText.getD "").toList
  let raw := if time ≠ [] ∧ ¬ hasClock raw then raw ++ ' ' :: time else raw
  strip (dropOffset (strip (raw.filter (· ≠ 'Z'))))

def readDatetime (strptime : List Char → String → Option T) (fromIsoformat : List Char → Option T)
    (dateText timeText : Option String) : Option T :=
  if strip (dateText.getD "").toList = [] then none
  else
    dateFormats.findSome? (strptime (rawText dateText timeText)) <|>
      fromIsoformat (rawText dateText timeText)

end Reading

-- The fields that a format leaves out are those of the first of January 1900.
def strptime (text : List Char) (format : String) : Option DateTime :=
  (Strptime.parse format.toList text).bind fun moment =>
    dateTime moment.year moment.month moment.day moment.hour moment.minute moment.second 0

-- No date has a shorter text than a year with its week.
def fromIsoformat (longer : List Char → Option DateTime) (text : List Char) : Option DateTime :=
  if text.length < 7 then none else longer text

def monthFirst (format : String) : Bool := "%m".toList.isPrefixOf format.toList

def timed (format : String) : Bool := "%H".toList <:+: format.toList

def tokensOf (format : String) : List Token := (tokens format.toList).getD []

def momentOf (t : DateTime) : Moment := ⟨t.year, t.month, t.day, t.hour, t.minute, t.second⟩

def strftime (format : String) (t : DateTime) : List Char :=
  Strptime.written (momentOf t) (tokensOf format)

theorem no_microseconds : 0 < 1000000 := by decide

-- As much of a moment as the format writes.
def truncated (format : String) (t : DateTime) : DateTime where
  year := t.year
  month := t.month
  day := t.day
  hour := if timed format then t.hour else 0
  minute := if timed format then t.minute else 0
  second := if "%S".toList <:+: format.toList then t.second else 0
  microsecond := 0
  year_range := t.year_range
  month_range := t.month_range
  day_range := t.day_range
  hour_lt := by
    have hlt := t.hour_lt
    split <;> omega
  minute_lt := by
    have hlt := t.minute_lt
    split <;> omega
  second_lt := by
    have hlt := t.second_lt
    split <;> omega
  microsecond_lt := no_microseconds

-- No format in front of this one can read what it writes in the month.
def clear (format : String) (month : ℕ) : Bool :=
  (dateFormats.takeWhile (· ≠ format)).all fun other =>
    !admits (tokensOf other) (shape month (tokensOf format))

-- The long name of a month is in front of a short one that is not, but in May both are the same.
def shortened (format : String) : String :=
  if format = "%d %B %Y %H:%M" then "%d %b %Y %H:%M"
  else if format = "%d %B %Y" then "%d %b %Y"
  else format

-- Shapes of texts that stand in a cell as they are written.
def neat (shape : List Char) : Bool :=
  !shape.isEmpty && shape.head? ≠ some ' ' && shape.getLast? ≠ some ' ' && 'z' ∉ shape

def signed (shape : List Char) : Bool :=
  ["0000+", "0000-", "00:00+", "00:00-"].any (·.toList.isPrefixOf shape.reverse)

def clockFormats : List String := ["%H:%M:%S", "%H:%M"]

-- The formats with what reading one text by all of them in turn rests on.
structure FormatTable where
  formats : List String
  parsed : ∀ format ∈ formats, tokens format.toList = some (tokensOf format) ∧
    ∀ month < 13, spaced month (tokensOf format) = true
  cleared : ∀ format ∈ formats, monthFirst format = false → ∀ month < 13,
    1 ≤ month → clear format month = true ∨
      month = 5 ∧ shortened format ∈ formats ∧ clear (shortened format) month = true
  renamed : ∀ format ∈ formats, shortened format ≠ format →
    tokensOf (shortened format) = (tokensOf format).map fun token =>
      if token = .field .longMonth then .field .shortMonth else token
  retimed : ∀ format ∈ formats, timed (shortened format) = timed format ∧
    ("%S".toList <:+: (shortened format).toList ↔ "%S".toList <:+: format.toList)
  shapes : ∀ format ∈ formats, ∀ month < 13, 1 ≤ month →
    neat (shape month (tokensOf format)) = true ∧
      (format ≠ "%d-%m-%Y" → signed (shape month (tokensOf format)) = false)
  columns : ∀ time ∈ clockFormats, ∀ format ∈ formats,
    let date := String.ofList (format.toList.take (format.toList.length - (time.toList.length + 1)))
    date.toList ++ ' ' :: time.toList = format.toList →
      tokensOf format = tokensOf date ++ .blank :: tokensOf time ∧
        ∀ month < 13, 1 ≤ month → neat (shape month (tokensOf date)) = true ∧
          ':' ∉ shape month (tokensOf date) ∧ neat (shape month (tokensOf time)) = true ∧
            format ≠ "%d-%m-%Y"
  dashed : tokensOf "%d-%m" = [.field .day, .char '-', .field .month] ∧
    tokensOf "%d-%m-%Y" = tokensOf "%d-%m" ++ [.char '-', .field .year] ∧
      ∀ format ∈ formats, admits (tokensOf format) "00-00".toList = false

def formatTable : FormatTable where
  formats := dateFormats
  parsed := by decide +kernel
  cleared := by decide +kernel
  renamed := by decide +kernel
  retimed := by decide +kernel
  shapes := by decide +kernel
  columns := by decide +kernel
  dashed := by decide +kernel

section Formats

variable {format : String} {t : DateTime} {month : ℕ} {text : List Char}

theorem proper_momentOf (t : DateTime) : (momentOf t).Proper where
  year_lt := Nat.lt_succ_of_le t.year_range.2
  month_range := t.month_range
  day_range := by
    have hdays : daysIn t.year t.month ≤ 31 := by
      unfold daysIn
      split
      · split <;> decide
      · split <;> decide
    exact ⟨t.day_range.1, t.day_range.2.trans hdays⟩
  hour_lt := t.hour_lt
  minute_lt := t.minute_lt
  second_lt := t.second_lt

theorem seen_format (moment : Moment) : ∀ format ∈ dateFormats,
    moment.seen (tokensOf format) =
      ⟨moment.year, moment.month, moment.day, if timed format then moment.hour else 0,
        if timed format then moment.minute else 0,
        if "%S".toList <:+: format.toList then moment.second else 0⟩ := by
  unfold dateFormats
  simp only [List.forall_mem_cons]
  refine ⟨?_, ?_, ?_, ?_, ?_, ?_, ?_, ?_, ?_, ?_, ?_, ?_, ?_, ?_, ?_, ?_, ?_, ?_, ?_, ?_, nofun⟩ <;> rfl

theorem strptime_strftime (h : format ∈ dateFormats) (t : DateTime) :
    strptime (strftime format t) format = some (truncated format t) := by
  obtain ⟨htokens, hspaced⟩ := formatTable.parsed format h
  have hmonth : (momentOf t).month < 13 := Nat.lt_succ_of_le t.month_range.2
  rw [strptime, strftime, parse_written htokens (proper_momentOf t) (hspaced _ hmonth),
    Option.bind_some, seen_format _ format h]
  exact dif_pos ⟨(truncated format t).year_range, (truncated format t).month_range,
    (truncated format t).day_range, (truncated format t).hour_lt, (truncated format t).minute_lt,
    (truncated format t).second_lt, (truncated format t).microsecond_lt⟩

theorem strptime_eq_none (h : format ∈ dateFormats)
    (hshape : admits (tokensOf format) (text.map symbol) = false) :
    strptime text format = none := by
  rw [strptime, parse_eq_none (formatTable.parsed format h).1 hshape, Option.bind_none]

theorem map_symbol_strftime : (strftime format t).map symbol = shape t.month (tokensOf format) :=
  map_symbol_written (proper_momentOf t)

theorem findSome?_of_takeWhile {α β : Type} [DecidableEq α] {g : α → Option β} {xs : List α} {a : α}
    {b : β} (h : a ∈ xs) (hbefore : ∀ x ∈ xs.takeWhile (· ≠ a), g x = none) (ha : g a = some b) :
    xs.findSome? g = some b := by
  induction xs with
  | nil => cases h
  | cons x xs ih =>
      by_cases hx : x = a
      · rw [hx, List.findSome?_cons, ha]
      · have hmem : a ∈ xs := (List.mem_cons.mp h).resolve_left fun heq => hx heq.symm
        rw [List.takeWhile_cons_of_pos (by simpa using hx)] at hbefore
        rw [List.findSome?_cons, hbefore x List.mem_cons_self]
        exact ih hmem fun y hy => hbefore y (List.mem_cons_of_mem _ hy)

theorem first_of_clear (h : format ∈ dateFormats) (hclear : clear format t.month = true) :
    dateFormats.findSome? (strptime (strftime format t)) = some (truncated format t) := by
  refine findSome?_of_takeWhile h (fun other hother => ?_) (strptime_strftime h t)
  refine strptime_eq_none ((List.takeWhile_sublist _).subset hother) ?_
  rw [map_symbol_strftime]
  simpa using List.all_eq_true.mp hclear other hother

theorem strftime_may (h : format ∈ dateFormats) (hmay : t.month = 5) :
    strftime (shortened format) t = strftime format t ∧
      truncated (shortened format) t = truncated format t := by
  have hname : Field.shortMonth.written (momentOf t) = Field.longMonth.written (momentOf t) := by
    have hmonth : (momentOf t).month = 5 := hmay
    rw [Field.written, Field.written, hmonth]
    decide
  have hsame := formatTable.retimed format h
  constructor
  · by_cases heq : shortened format = format
    · rw [heq]
    · rw [strftime, strftime, formatTable.renamed format h heq, Strptime.written, Strptime.written,
        List.flatMap_map]
      congr 1
      funext token
      by_cases htoken : token = .field .longMonth
      · rw [if_pos htoken, htoken]
        exact hname
      · rw [if_neg htoken]
  · simp only [truncated, hsame.1, hsame.2]

theorem first_format (h : format ∈ dateFormats) (hfirst : monthFirst format = false)
    (t : DateTime) :
    dateFormats.findSome? (strptime (strftime format t)) = some (truncated format t) := by
  rcases formatTable.cleared format h hfirst t.month (Nat.lt_succ_of_le t.month_range.2)
    t.month_range.1 with hclear | ⟨hmay, hmem, hclear⟩
  · exact first_of_clear h hclear
  · obtain ⟨htext, hsame⟩ := strftime_may h hmay
    rw [← htext, ← hsame]
    exact first_of_clear hmem hclear

end Formats

-- What may stand behind a time.
inductive Zone : List Char → Prop where
  | none : Zone []
  | zulu {blanks : List Char} (hblanks : ∀ c ∈ blanks, isSpace c = true) : Zone (blanks ++ ['Z'])
  | offset {blanks : List Char} {sign a b c d : Char} (colon : Bool)
      (hblanks : ∀ c ∈ blanks, isSpace c = true) (hsign : sign = '+' ∨ sign = '-')
      (hdigits : [a, b, c, d].all isDigit = true) :
      Zone (blanks ++ sign :: a :: b :: ((if colon then [':'] else []) ++ [c, d]))

section Rewriting

variable {text blanks zone : List Char}

def cleaned (raw : List Char) : List Char :=
  strip (dropOffset (strip (raw.filter (· ≠ 'Z'))))

theorem strip_append_blanks (htext : text ≠ []) (h : Trimmed text)
    (hblanks : ∀ c ∈ blanks, isSpace c = true) : strip (text ++ blanks) = text := by
  obtain ⟨c, rest, rfl⟩ := List.exists_cons_of_ne_nil htext
  have hfront : ((c :: rest) ++ blanks).dropWhile isSpace = (c :: rest) ++ blanks :=
    dropWhile_of_head h.1
  have hback : blanks.reverse.dropWhile isSpace = [] :=
    List.dropWhile_eq_nil_iff.mpr fun d hd => hblanks d (List.mem_reverse.mp hd)
  have hlast : (c :: rest).reverse.dropWhile isSpace = (c :: rest).reverse := by
    refine dropWhile_of_head ?_
    rw [List.head?_reverse]
    exact h.2
  rw [strip, hfront, List.reverse_append, List.dropWhile_append, hback, List.isEmpty_nil,
    if_pos rfl, hlast, List.reverse_reverse]

theorem trimmed_append {c : Char} (htext : text ≠ []) (h : Trimmed text)
    (hc : isSpace c = false) (rest : List Char) : Trimmed (text ++ (rest ++ [c])) := by
  obtain ⟨d, tail, rfl⟩ := List.exists_cons_of_ne_nil htext
  refine ⟨h.1, ?_⟩
  rw [← List.append_assoc, List.getLast?_append, List.getLast?_singleton]
  exact hc

theorem Zone.trimmed (hzone : Zone zone) (htext : text ≠ []) (h : Trimmed text) :
    Trimmed (text ++ zone) := by
  cases hzone with
  | none => rwa [List.append_nil]
  | zulu hblanks => exact trimmed_append htext h (by decide) _
  | @offset blanks sign a b c d colon hblanks hsign hdigits =>
      have hd : isSpace d = false :=
        not_isSpace_of_isDigit (List.all_eq_true.mp hdigits d (by simp))
      have hlast : blanks ++ sign :: a :: b :: ((if colon then [':'] else []) ++ [c, d]) =
          (blanks ++ sign :: a :: b :: ((if colon then [':'] else []) ++ [c])) ++ [d] := by
        simp
      rw [hlast]
      exact trimmed_append htext h hd _

theorem dropOffset_offset {sign a b c d : Char} (colon : Bool)
    (hblanks : ∀ c ∈ blanks, isSpace c = true) (hsign : sign = '+' ∨ sign = '-')
    (hdigits : [a, b, c, d].all isDigit = true) (h : Trimmed text) :
    dropOffset (text ++ (blanks ++ sign :: a :: b :: ((if colon then [':'] else []) ++ [c, d]))) =
      text := by
  have hcut : (((blanks.reverse ++ text.reverse).dropWhile isSpace).reverse) = text := by
    have hback : blanks.reverse.dropWhile isSpace = [] :=
      List.dropWhile_eq_nil_iff.mpr fun d hd => hblanks d (List.mem_reverse.mp hd)
    have hlast : text.reverse.dropWhile isSpace = text.reverse := by
      refine dropWhile_of_head ?_
      rw [List.head?_reverse]
      exact h.2
    rw [List.dropWhile_append, hback, List.isEmpty_nil, if_pos rfl, hlast, List.reverse_reverse]
  have hoffset : ((sign = '+' || sign = '-') && [a, b, c, d].all isDigit) = true := by
    rw [hdigits, Bool.and_true, Bool.or_eq_true, decide_eq_true_eq, decide_eq_true_eq]
    exact hsign
  have hb : b ≠ ':' := by
    rintro rfl
    simp only [List.all_cons, Bool.and_eq_true] at hdigits
    exact absurd hdigits.2.1 (by decide)
  cases colon with
  | true =>
      have hreverse : (text ++ (blanks ++ sign :: a :: b :: ((if true then [':'] else []) ++
          [c, d]))).reverse = d :: c :: ':' :: b :: a :: sign :: (blanks.reverse ++ text.reverse) := by
        simp
      unfold dropOffset
      rw [hreverse]
      exact (if_pos hoffset).trans hcut
  | false =>
      have hreverse : (text ++ (blanks ++ sign :: a :: b :: ((if false then [':'] else []) ++
          [c, d]))).reverse = d :: c :: b :: a :: sign :: (blanks.reverse ++ text.reverse) := by
        simp
      unfold dropOffset
      rw [hreverse]
      split
      next heq =>
        simp only [List.cons.injEq] at heq
        exact absurd heq.2.2.1 hb
      next heq =>
        simp only [List.cons.injEq] at heq
        obtain ⟨rfl, rfl, rfl, rfl, rfl, rfl⟩ := heq
        rw [if_pos hoffset]
        exact hcut
      next hno => exact absurd rfl (hno d c b a sign _)

-- The shapes of texts that end in an offset.
theorem signed_of_offset {sign a b c d : Char} {colon rest : List Char}
    (hcolon : colon = [] ∨ colon = [':'])
    (hreverse : text.reverse = d :: c :: (colon ++ b :: a :: sign :: rest))
    (h : ((sign = '+' || sign = '-') && [a, b, c, d].all isDigit) = true) :
    signed (text.map symbol) = true := by
  obtain ⟨hsign, hdigits⟩ := Bool.and_eq_true_iff.mp h
  have hzero {e : Char} (he : e ∈ [a, b, c, d]) : symbol e = '0' :=
    symbol_of_isDigit (List.all_eq_true.mp hdigits e he)
  have hshape : (text.map symbol).reverse =
      '0' :: '0' :: (colon.map symbol ++ '0' :: '0' :: symbol sign :: rest.map symbol) := by
    rw [← List.map_reverse, hreverse]
    simp [hzero]
  rw [Bool.or_eq_true, decide_eq_true_eq, decide_eq_true_eq] at hsign
  unfold signed
  rw [hshape]
  rcases hcolon with rfl | rfl
  · rcases hsign with rfl | rfl
    · rfl
    · rfl
  · rcases hsign with rfl | rfl
    · rfl
    · rfl

theorem dropOffset_of_not_signed (h : signed (text.map symbol) = false) :
    dropOffset text = text := by
  unfold dropOffset
  split
  next heq =>
    refine if_neg fun hoffset => ?_
    rw [@signed_of_offset text _ _ _ _ _ [':'] _ (.inr rfl) heq hoffset] at h
    cases h
  next heq =>
    refine if_neg fun hoffset => ?_
    rw [@signed_of_offset text _ _ _ _ _ [] _ (.inl rfl) heq hoffset] at h
    cases h
  next => rfl

theorem cleaned_zone (hzone : Zone zone) (htext : text ≠ []) (h : Trimmed text) (hzulu : 'Z' ∉ text)
    (hsigned : signed (text.map symbol) = false) : cleaned (text ++ zone) = text := by
  have hkept {rest : List Char} (hrest : 'Z' ∉ rest) :
      (text ++ rest).filter (· ≠ 'Z') = text ++ rest := by
    refine List.filter_eq_self.mpr fun c hc => decide_eq_true fun heq => ?_
    rcases List.mem_append.mp hc with hc | hc
    · exact hzulu (heq ▸ hc)
    · exact hrest (heq ▸ hc)
  have hspace {c : Char} (hc : isSpace c = true) : c ≠ 'Z' := by
    rintro rfl
    cases hc
  have hfinish : strip (dropOffset text) = text := by
    rw [dropOffset_of_not_signed hsigned, strip_of_trimmed h]
  unfold cleaned
  cases hzone with
  | none => rw [hkept List.not_mem_nil, List.append_nil, strip_of_trimmed h, hfinish]
  | @zulu blanks hblanks =>
      have hdropped : (text ++ (blanks ++ ['Z'])).filter (· ≠ 'Z') = text ++ blanks := by
        rw [← List.append_assoc, List.filter_append, hkept fun hmem => hspace (hblanks _ hmem) rfl]
        simp
      rw [hdropped, strip_append_blanks htext h hblanks, hfinish]
  | @offset blanks sign a b c d colon hblanks hsign hdigits =>
      have hrest : 'Z' ∉ blanks ++ sign :: a :: b :: ((if colon then [':'] else []) ++ [c, d]) := by
        have hdigit {e : Char} (he : e ∈ [a, b, c, d]) : 'Z' ≠ e := by
          rintro rfl
          exact absurd (List.all_eq_true.mp hdigits _ he) (by decide)
        have hsigns : 'Z' ≠ sign := by
          rcases hsign with rfl | rfl <;> decide
        intro hmem
        rcases List.mem_append.mp hmem with hmem | hmem
        · exact hspace (hblanks _ hmem) rfl
        · cases colon <;> simp [hsigns, hdigit] at hmem
      have htrimmed := Zone.trimmed (.offset colon hblanks hsign hdigits) htext h
      rw [hkept hrest, strip_of_trimmed htrimmed,
        dropOffset_offset colon hblanks hsign hdigits h, strip_of_trimmed h]

end Rewriting

section Reports

variable {format date time : String} {t : DateTime} {text zone : List Char}
  {longer : List Char → Option DateTime} {timeText : Option String}

structure Neat (text : List Char) : Prop where
  nonempty : text ≠ []
  trimmed : Trimmed text
  no_zulu : 'Z' ∉ text

theorem neat_of_shape (h : neat (text.map symbol) = true) : Neat text := by
  simp only [neat, Bool.and_eq_true, decide_eq_true_eq, Bool.not_eq_true',
    List.isEmpty_eq_false_iff] at h
  obtain ⟨⟨⟨hne, hhead⟩, hlast⟩, hzulu⟩ := h
  have hspace {c : Option Char} (hc : c.map symbol ≠ some ' ') : c.any isSpace = false := by
    cases c with
    | none => rfl
    | some c =>
        refine Bool.eq_false_iff.mpr fun hspace => hc ?_
        rw [Option.map_some, symbol_of_isSpace hspace]
  refine ⟨fun hnil => hne (by rw [hnil]; rfl), ⟨hspace ?_, hspace ?_⟩, fun hmem => hzulu ?_⟩
  · rwa [← List.head?_map]
  · rwa [← List.getLast?_map]
  · exact List.mem_map_of_mem hmem

theorem not_hasClock (h : ':' ∉ text.map symbol) : hasClock text = false := by
  have hmem {text : List Char} (hclock : hasClock text = true) : ':' ∈ text := by
    fun_induction hasClock text with
    | case1 a b c cs ih =>
        rw [Bool.or_eq_true, Bool.and_eq_true, Bool.and_eq_true, decide_eq_true_eq] at hclock
        rcases hclock with ⟨⟨-, rfl⟩, -⟩ | hclock
        · simp
        · exact List.mem_cons_of_mem _ (ih hclock)
    | case2 => cases hclock
  exact Bool.eq_false_iff.mpr fun hclock => h (List.mem_map_of_mem (hmem hclock))

theorem rawText_single (h : Neat text) (hzone : Zone zone)
    (hsigned : signed (text.map symbol) = false) (hblank : strip (timeText.getD "").toList = []) :
    rawText (some (String.ofList (text ++ zone))) timeText = text := by
  have hstrip : strip (text ++ zone) = text ++ zone :=
    strip_of_trimmed (hzone.trimmed h.nonempty h.trimmed)
  have hraw : rawText (some (String.ofList (text ++ zone))) timeText = cleaned (text ++ zone) := by
    simp only [rawText, Option.getD_some, String.toList_ofList, hstrip, hblank, ne_eq,
      not_true_eq_false, false_and, if_false, cleaned]
  rw [hraw, cleaned_zone hzone h.nonempty h.trimmed h.no_zulu hsigned]

theorem readDatetime_of_rawText (hformat : format ∈ dateFormats) (hfirst : monthFirst format = false)
    {dateText timeText : Option String} (hdate : strip (dateText.getD "").toList ≠ [])
    (hraw : rawText dateText timeText = strftime format t) :
    readDatetime strptime (fromIsoformat longer) dateText timeText = some (truncated format t) := by
  rw [readDatetime, if_neg hdate, hraw, first_format hformat hfirst t]
  rfl

-- The year behind the second dash is taken for an offset.
theorem dashed_refused (hblank : strip (timeText.getD "").toList = []) :
    readDatetime strptime (fromIsoformat longer)
      (some (String.ofList (strftime "%d-%m-%Y" t))) timeText = none := by
  obtain ⟨hparts, htokens, hadmits⟩ := formatTable.dashed
  have hshape : (strftime "%d-%m" t).map symbol = "00-00".toList := by
    rw [map_symbol_strftime, hparts]
    rfl
  have hneat : Neat (strftime "%d-%m" t) := neat_of_shape (by rw [hshape]; decide)
  have hlength : (strftime "%d-%m" t).length < 7 := by
    rw [← List.length_map symbol, hshape]
    decide
  obtain ⟨a, b, c, d, hyear⟩ : ∃ a b c d, decimal.written 4 t.year = [a, b, c, d] := by
    have hfour : (decimal.written 4 t.year).length = 4 := Base.length_written
    match decimal.written 4 t.year, hfour with
    | [a, b, c, d], _ => exact ⟨a, b, c, d, rfl⟩
  have hdigits : [a, b, c, d].all isDigit = true := by
    rw [← hyear]
    exact List.all_eq_true.mpr fun c hc => (digits_spec c (Base.mem_written hc)).2.1
  have htext : strftime "%d-%m-%Y" t =
      strftime "%d-%m" t ++ ([] ++ '-' :: a :: b :: ((if false then [':'] else []) ++ [c, d])) := by
    have hlast : Strptime.written (momentOf t) [.char '-', .field .year] = '-' :: [a, b, c, d] := by
      rw [← hyear]
      rfl
    rw [strftime, htokens, Strptime.written, List.flatMap_append]
    exact congrArg (strftime "%d-%m" t ++ ·) hlast
  have hzone : Zone ([] ++ '-' :: a :: b :: ((if false then [':'] else []) ++ [c, d])) :=
    .offset false (fun _ h => absurd h List.not_mem_nil) (.inr rfl) hdigits
  have hsigned : signed ((strftime "%d-%m" t).map symbol) = false := by
    rw [hshape]
    decide
  have hraw : rawText (some (String.ofList (strftime "%d-%m-%Y" t))) timeText =
      strftime "%d-%m" t := by
    rw [htext]
    exact rawText_single hneat hzone hsigned hblank
  have hnone : dateFormats.findSome? (strptime (strftime "%d-%m" t)) = none := by
    refine List.findSome?_eq_none_iff.mpr fun format hformat => strptime_eq_none hformat ?_
    rw [hshape]
    exact hadmits format hformat
  unfold readDatetime
  split
  · rfl
  · rw [hraw, hnone, fromIsoformat, if_pos hlength]
    rfl

theorem report_date_read_iff (longer : List Char → Option DateTime) (t : DateTime) (format : String)
    (hformat : format ∈ dateFormats) (hfirst : monthFirst format = false) (zone : List Char)
    (hzone : Zone zone) (htimed : timed format = false → zone = []) (timeText : Option String)
    (hblank : strip (timeText.getD "").toList = []) :
    (readDatetime strptime (fromIsoformat longer)
        (some (String.ofList (strftime format t ++ zone))) timeText = some (truncated format t) ↔
      format ≠ "%d-%m-%Y") ∧
    ∀ date time : String, time ∈ clockFormats →
      date.toList ++ ' ' :: time.toList = format.toList →
        readDatetime strptime (fromIsoformat longer) (some (String.ofList (strftime date t)))
          (some (String.ofList (strftime time t ++ zone))) = some (truncated format t) := by
  have hmonth := Nat.lt_succ_of_le t.month_range.2
  obtain ⟨hneat, hsigned⟩ := formatTable.shapes format hformat t.month hmonth t.month_range.1
  rw [← map_symbol_strftime] at hneat hsigned
  have hwritten := neat_of_shape hneat
  have htrimmed := hzone.trimmed hwritten.nonempty hwritten.trimmed
  constructor
  · constructor
    · rintro hread rfl
      rw [htimed rfl, List.append_nil, dashed_refused hblank] at hread
      cases hread
    · intro hother
      refine readDatetime_of_rawText hformat hfirst ?_
        (rawText_single hwritten hzone (hsigned hother) hblank)
      rw [Option.getD_some, String.toList_ofList, strip_of_trimmed htrimmed]
      exact fun hnil => hwritten.nonempty (List.append_eq_nil_iff.mp hnil).1
  · intro date time htime hsplit
    have hdate : date =
        String.ofList (format.toList.take (format.toList.length - (time.toList.length + 1))) := by
      rw [← hsplit]
      simp
    subst hdate
    obtain ⟨htokens, hcolumns⟩ := formatTable.columns time htime format hformat hsplit
    obtain ⟨hneatDate, hcolon, hneatTime, hother⟩ := hcolumns t.month hmonth t.month_range.1
    rw [← map_symbol_strftime] at hneatDate hcolon hneatTime
    have hdate := neat_of_shape hneatDate
    have htime := neat_of_shape hneatTime
    have hclock := not_hasClock hcolon
    have hcell : strip (strftime time t ++ zone) = strftime time t ++ zone :=
      strip_of_trimmed (hzone.trimmed htime.nonempty htime.trimmed)
    have hne : strftime time t ++ zone ≠ [] :=
      fun hnil => htime.nonempty (List.append_eq_nil_iff.mp hnil).1
    refine readDatetime_of_rawText hformat hfirst ?_ ?_
    · rw [Option.getD_some, String.toList_ofList, strip_of_trimmed hdate.trimmed]
      exact hdate.nonempty
    · have hjoined : strftime format t = strftime
          (String.ofList (format.toList.take (format.toList.length - (time.toList.length + 1)))) t ++
            ' ' :: strftime time t := by
        rw [strftime, htokens, Strptime.written, List.flatMap_append, List.flatMap_cons]
        rfl
      have hcleaned := cleaned_zone hzone hwritten.nonempty hwritten.trimmed hwritten.no_zulu
        (hsigned hother)
      rw [hjoined, List.append_assoc, List.cons_append] at hcleaned
      simp only [rawText, Option.getD_some, String.toList_ofList, strip_of_trimmed hdate.trimmed,
        hcell, hclock]
      rw [if_pos ⟨hne, by simp⟩, hjoined]
      exact hcleaned

def christmas : DateTime :=
  ⟨2024, 12, 25, 18, 30, 5, 0, by decide, by decide, by decide, by decide, by decide, by decide,
    no_microseconds⟩

theorem dinner_read :
    readDatetime strptime (fromIsoformat fun _ => none) (some "25 December 2024 18:30+02:00") none =
      some (truncated "%d %B %Y %H:%M" christmas) := by
  have hzone : Zone ([] ++ '+' :: '0' :: '2' :: ((if true then [':'] else []) ++ ['0', '0'])) :=
    .offset true (fun _ h => absurd h List.not_mem_nil) (.inl rfl) (by decide)
  have htext : String.ofList (strftime "%d %B %Y %H:%M" christmas ++
      ([] ++ '+' :: '0' :: '2' :: ((if true then [':'] else []) ++ ['0', '0']))) =
        "25 December 2024 18:30+02:00" := by
    decide +kernel
  have hread := (report_date_read_iff (fun _ => none) christmas "%d %B %Y %H:%M" (by decide)
    (by decide) _ hzone (by decide) none (by decide)).1.mpr (by decide)
  rwa [htext] at hread

theorem dashed_date_refused :
    readDatetime strptime (fromIsoformat fun _ => none) (some "25-12-2024") none = none ∧
      truncated "%d-%m-%Y" christmas = ⟨2024, 12, 25, 0, 0, 0, 0, by decide, by decide, by decide,
        by decide, by decide, by decide, by decide⟩ := by
  have htext : String.ofList (strftime "%d-%m-%Y" christmas) = "25-12-2024" := by decide +kernel
  rw [← htext]
  exact ⟨dashed_refused rfl, rfl⟩

end Reports

end NextgenBackend.ExternalOrders.ReportDates
