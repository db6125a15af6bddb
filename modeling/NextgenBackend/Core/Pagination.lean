import NextgenBackend.Bot.LlmParser
import NextgenBackend.Library.Numerals

namespace NextgenBackend.Pagination

open Bot.Llm (PyError)
open Numerals

def isLeap (year : ℕ) : Bool := year % 4 = 0 && (year % 100 ≠ 0 || year % 400 = 0)

def daysIn (year month : ℕ) : ℕ :=
  if month = 2 then if isLeap year then 29 else 28
  else if month ∈ [4, 6, 9, 11] then 30
  else 31

-- A moment of the universal calendar, to the microsecond.
structure DateTime where
  year : ℕ
  month : ℕ
  day : ℕ
  hour : ℕ
  minute : ℕ
  second : ℕ
  microsecond : ℕ
  year_range : 1 ≤ year ∧ year ≤ 9999
  month_range : 1 ≤ month ∧ month ≤ 12
  day_range : 1 ≤ day ∧ day ≤ daysIn year month
  hour_lt : hour < 24
  minute_lt : minute < 60
  second_lt : second < 60
  microsecond_lt : microsecond < 1000000
deriving DecidableEq

-- Moments in the order in which they come.
def DateTime.rank (t : DateTime) : ℕ :=
  (((((t.year * 13 + t.month) * 32 + t.day) * 24 + t.hour) * 60 + t.minute) * 60 + t.second) *
    1000000 + t.microsecond

def two (n : ℕ) : List Char := decimal.written 2 n

def isoformat (t : DateTime) : List Char :=
  decimal.written 4 t.year ++ '-' :: (two t.month ++ '-' :: (two t.day ++ 'T' ::
    (two t.hour ++ ':' :: (two t.minute ++ ':' :: (two t.second ++
      ((if t.microsecond = 0 then [] else '.' :: decimal.written 6 t.microsecond) ++
        "+00:00".toList))))))

-- The number that stands at a place of a text.
def numberAt (text : List Char) (start width : ℕ) : ℕ :=
  decimal.value ((text.drop start).take width)

def dateTime (year month day hour minute second microsecond : ℕ) : Option DateTime :=
  if h : (1 ≤ year ∧ year ≤ 9999) ∧ (1 ≤ month ∧ month ≤ 12) ∧
      (1 ≤ day ∧ day ≤ daysIn year month) ∧ hour < 24 ∧ minute < 60 ∧ second < 60 ∧
        microsecond < 1000000 then
    some ⟨year, month, day, hour, minute, second, microsecond, h.1, h.2.1, h.2.2.1, h.2.2.2.1,
      h.2.2.2.2.1, h.2.2.2.2.2.1, h.2.2.2.2.2.2⟩
  else none

def dateTimeAt (text : List Char) : Option DateTime :=
  dateTime (numberAt text 0 4) (numberAt text 5 2) (numberAt text 8 2) (numberAt text 11 2)
    (numberAt text 14 2) (numberAt text 17 2)
    (if text[19]? = some '.' then numberAt text 20 6 else 0)

abbrev RecordId := BitVec 128

def uuidText (id : RecordId) : List Char :=
  let hex := hexadecimal.written 32 id.toNat
  hex.take 8 ++ '-' :: ((hex.drop 8).take 4 ++ '-' :: ((hex.drop 12).take 4 ++ '-' ::
    ((hex.drop 16).take 4 ++ '-' :: hex.drop 20)))

def uuidAt (text : List Char) : Option RecordId :=
  some (.ofNat 128 (hexadecimal.value (text.filter (· ≠ '-'))))

-- What is made of the texts that are spelled in another way than they are written here.
structure Lenient where
  b64decode : List Char → Except PyError (List UInt8)
  fromisoformat : List Char → Except PyError DateTime
  uuid : List Char → Except PyError RecordId

-- A reader of nothing but the texts that are written here.
def refusing : Lenient :=
  ⟨fun _ => .error .valueError, fun _ => .error .valueError, fun _ => .error .valueError⟩

-- A text is read as what is spelled so.
def readSpelled {α : Type} (spell : α → List Char) (guess : List Char → Option α)
    (other : List Char → Except PyError α) (text : List Char) : Except PyError α :=
  match (guess text).filter fun a => spell a = text with
  | some a => .ok a
  | none => other text

def rawCursor (createdAt : DateTime) (recordId : RecordId) : String :=
  String.ofList (isoformat createdAt ++ '|' :: uuidText recordId)

def encodeCursor (createdAt : DateTime) (recordId : RecordId) : String :=
  String.ofList (encode (rawCursor createdAt recordId).toUTF8.data.toList)

def splitOnce (sep : Char) (text : List Char) : Option (List Char × List Char) :=
  match text.span (· ≠ sep) with
  | (_, []) => none
  | (first, _ :: rest) => some (first, rest)

def decodeCursor (lenient : Lenient) (cursor : String) :
    Except PyError (DateTime × RecordId) := do
  let bytes ← readSpelled encode decode lenient.b64decode cursor.toList
  let raw ← (String.fromUTF8? ⟨bytes.toArray⟩).elim (.error .valueError) .ok
  let (tsStr, idStr) ← (splitOnce '|' raw.toList).elim (.error .valueError) .ok
  let ts ← readSpelled isoformat dateTimeAt lenient.fromisoformat tsStr
  let id ← readSpelled uuidText uuidAt lenient.uuid idStr
  return (ts, id)

section RoundTrip

variable {α : Type} {spell : α → List Char} {guess : List Char → Option α}
  {other : List Char → Except PyError α} {t t' : DateTime} {id : RecordId}

theorem readSpelled_spell (h : ∀ a, guess (spell a) = some a) (a : α) :
    readSpelled spell guess other (spell a) = .ok a := by
  unfold readSpelled
  rw [h, Option.filter_some, if_pos (decide_eq_true rfl)]

theorem numberAt_eq {text : List Char} {start width n : ℕ} (h : n < 10 ^ width)
    (htext : (text.drop start).take width = decimal.written width n) :
    numberAt text start width = n := by
  unfold numberAt
  rw [htext]
  exact Base.value_written h

theorem day_le (t : DateTime) : t.day ≤ 31 := by
  have hday := t.day_range.2
  unfold daysIn at hday
  split_ifs at hday <;> omega

theorem dateTimeAt_isoformat (t : DateTime) : dateTimeAt (isoformat t) = some t := by
  have hyear : numberAt (isoformat t) 0 4 = t.year :=
    numberAt_eq (by have := t.year_range; omega) rfl
  have hmonth : numberAt (isoformat t) 5 2 = t.month :=
    numberAt_eq (by have := t.month_range; omega) rfl
  have hday : numberAt (isoformat t) 8 2 = t.day := by
    refine numberAt_eq ?_ rfl
    have hday := day_le t
    omega
  have hhour : numberAt (isoformat t) 11 2 = t.hour :=
    numberAt_eq (by have := t.hour_lt; omega) rfl
  have hminute : numberAt (isoformat t) 14 2 = t.minute :=
    numberAt_eq (by have := t.minute_lt; omega) rfl
  have hsecond : numberAt (isoformat t) 17 2 = t.second :=
    numberAt_eq (by have := t.second_lt; omega) rfl
  have hmicrosecond : (if (isoformat t)[19]? = some '.' then numberAt (isoformat t) 20 6 else 0) =
      t.microsecond := by
    by_cases hzero : t.microsecond = 0
    · have hplus : (isoformat t)[19]? = some '+' := by
        rw [isoformat, if_pos hzero]
        rfl
      rw [hplus, if_neg (by decide), hzero]
    · have hdot : (isoformat t)[19]? = some '.' := by
        rw [isoformat, if_neg hzero]
        rfl
      rw [if_pos hdot]
      refine numberAt_eq (by have := t.microsecond_lt; omega) ?_
      rw [isoformat, if_neg hzero]
      rfl
  unfold dateTimeAt
  rw [hyear, hmonth, hday, hhour, hminute, hsecond, hmicrosecond]
  exact dif_pos ⟨t.year_range, t.month_range, t.day_range, t.hour_lt, t.minute_lt, t.second_lt,
    t.microsecond_lt⟩

theorem dash_not_mem {width n : ℕ} : '-' ∉ hexadecimal.written width n := fun h =>
  absurd (Base.mem_written h) (by decide)

theorem pieces_append (hex : List Char) :
    hex.take 8 ++ ((hex.drop 8).take 4 ++ ((hex.drop 12).take 4 ++
      ((hex.drop 16).take 4 ++ hex.drop 20))) = hex := by
  have hnext (start width : ℕ) :
      (hex.drop start).take width ++ hex.drop (start + width) = hex.drop start := by
    rw [← List.drop_drop]
    exact List.take_append_drop _ _
  rw [hnext 16 4, hnext 12 4, hnext 8 4, List.take_append_drop]

theorem uuidAt_uuidText (id : RecordId) : uuidAt (uuidText id) = some id := by
  have hkeep {piece : List Char} (h : ∀ c ∈ piece, c ∈ hexadecimal.written 32 id.toNat) :
      piece.filter (· ≠ '-') = piece := by
    refine List.filter_eq_self.mpr fun c hc => decide_eq_true ?_
    rintro rfl
    exact dash_not_mem (h _ hc)
  have hdash (piece : List Char) : ('-' :: piece).filter (· ≠ '-') = piece.filter (· ≠ '-') := rfl
  have hfilter : (uuidText id).filter (· ≠ '-') = hexadecimal.written 32 id.toNat := by
    unfold uuidText
    simp only [List.filter_append, hdash]
    rw [hkeep fun c hc => List.mem_of_mem_take hc,
      hkeep fun c hc => List.mem_of_mem_drop (List.mem_of_mem_take hc),
      hkeep fun c hc => List.mem_of_mem_drop (List.mem_of_mem_take hc),
      hkeep fun c hc => List.mem_of_mem_drop (List.mem_of_mem_take hc),
      hkeep fun c hc => List.mem_of_mem_drop hc]
    exact pieces_append _
  have hvalue : hexadecimal.value (hexadecimal.written 32 id.toNat) = id.toNat :=
    Base.value_written (id.isLt.trans_eq (by decide))
  unfold uuidAt
  rw [hfilter, hvalue, BitVec.ofNat_toNat, BitVec.setWidth_eq]

theorem splitOnce_append {sep : Char} {first rest : List Char} (h : sep ∉ first) :
    splitOnce sep (first ++ sep :: rest) = some (first, rest) := by
  have hfirst : ∀ c ∈ first, decide (c ≠ sep) = true := fun c hc =>
    decide_eq_true fun heq => h (heq ▸ hc)
  unfold splitOnce
  rw [List.span_eq_takeWhile_dropWhile, List.takeWhile_append_of_pos hfirst,
    List.dropWhile_append_of_pos hfirst]
  simp

theorem bar_not_mem_isoformat (t : DateTime) : '|' ∉ isoformat t := by
  have hwritten {width n : ℕ} : '|' ∉ decimal.written width n := fun h =>
    absurd (Base.mem_written h) (by decide)
  unfold isoformat two
  split_ifs
  · simp [hwritten]
  · simp [hwritten]

theorem decodeCursor_encodeCursor (lenient : Lenient) (createdAt : DateTime) (id : RecordId) :
    decodeCursor lenient (encodeCursor createdAt id) = .ok (createdAt, id) := by
  have hbytes : String.fromUTF8? ⟨(rawCursor createdAt id).toUTF8.data.toList.toArray⟩ =
      some (rawCursor createdAt id) := by
    rw [Array.toArray_toList]
    exact dif_pos (rawCursor createdAt id).isValidUTF8
  unfold decodeCursor
  have hcursor : (encodeCursor createdAt id).toList =
      encode (rawCursor createdAt id).toUTF8.data.toList := by
    rw [encodeCursor, String.toList_ofList]
  have hraw : (rawCursor createdAt id).toList = isoformat createdAt ++ '|' :: uuidText id := by
    rw [rawCursor, String.toList_ofList]
  rw [hcursor, readSpelled_spell decode_encode]
  simp only [bind, Except.bind, hbytes, Option.elim_some, hraw,
    splitOnce_append (bar_not_mem_isoformat createdAt),
    readSpelled_spell dateTimeAt_isoformat, readSpelled_spell uuidAt_uuidText]
  rfl

theorem rank_injective (h : t.rank = t'.rank) : t = t' := by
  have hday := day_le t
  have hday' := day_le t'
  obtain ⟨y, mo, d, hr, mi, sec, us, hy, hmo, hd, hhr, hmi, hsec, hus⟩ := t
  obtain ⟨y', mo', d', hr', mi', sec', us', hy', hmo', hd', hhr', hmi', hsec', hus'⟩ := t'
  simp only [DateTime.rank] at h hday hday'
  obtain ⟨rfl, rfl, rfl, rfl, rfl, rfl, rfl⟩ : y = y' ∧ mo = mo' ∧ d = d' ∧ hr = hr' ∧ mi = mi' ∧
      sec = sec' ∧ us = us' := by
    refine ⟨?_, ?_, ?_, ?_, ?_, ?_, ?_⟩ <;> omega
  rfl

end RoundTrip

end NextgenBackend.Pagination
