import Mathlib
import NextgenBackend.Library.Decimal.Number

namespace Decimal

-- The characters of a numeral without an exponent.
def isPlain (c : Char) : Bool :=
  Text.isDigit c || c = '.' || c = '-'

def toAscii (c : Char) : Char :=
  (Text.digitValue c).elim c fun d => Char.ofNat (48 + d)

variable {text body digits whole fraction : List Char} {c : Char} {x : ℚ}

theorem digitsValue_append (digits : List Char) (c : Char) :
    digitsValue (digits ++ [c]) = 10 * digitsValue digits + (c.toNat - 48) := by
  simp [digitsValue, List.foldl_append]

theorem digitsValue_lt (h : ∀ c ∈ digits, asciiDigit c) :
    digitsValue digits < 10 ^ digits.length := by
  induction digits using List.reverseRecOn with
  | nil => simp [digitsValue]
  | append_singleton digits c ih =>
      have hdigits := ih fun d hd => h d (by simp [hd])
      have hc : asciiDigit c := h c (by simp)
      have hle : c.toNat ≤ 57 := by
        simp only [asciiDigit, Bool.and_eq_true, decide_eq_true_eq] at hc
        exact hc.2
      rw [digitsValue_append, List.length_append, List.length_singleton, pow_succ]
      omega

theorem asciiDigit_ofNat : ∀ d < 10, asciiDigit (Char.ofNat (48 + d)) = true := by decide

theorem toAscii_cases (h : isPlain c) :
    (Text.isDigit c ∧ asciiDigit (toAscii c)) ∨ (c = '.' ∧ toAscii c = '.') ∨
      (c = '-' ∧ toAscii c = '-') := by
  simp only [isPlain, Bool.or_eq_true, decide_eq_true_eq] at h
  rcases h with (h | rfl) | rfl
  · obtain ⟨d, hd⟩ := Option.isSome_iff_exists.mp h
    have hlt := Text.digitValue_lt hd
    refine .inl ⟨h, ?_⟩
    simpa [toAscii, hd] using asciiDigit_ofNat d hlt
  · exact .inr (.inl ⟨rfl, by decide⟩)
  · exact .inr (.inr ⟨rfl, by decide⟩)

theorem toAscii_of_le (h : Text.isDigit c) (hascii : c.toNat ≤ 127) : toAscii c = c := by
  obtain ⟨d, hd⟩ := Option.isSome_iff_exists.mp h
  obtain ⟨first, hfirst, hpoint, hlt⟩ := Text.digitValue_point hd
  have honly : ∀ first ∈ Text.zeros, first ≤ 127 → first = 48 := by decide
  have hfirst : first = 48 := honly first hfirst (by omega)
  simp only [toAscii, hd, Option.elim_some]
  rw [← hfirst, ← hpoint, Char.ofNat_toNat]

theorem not_isSpace_of_isPlain (h : isPlain c) : Text.isSpace c = false := by
  rcases toAscii_cases h with ⟨hdigit, -⟩ | ⟨rfl, -⟩ | ⟨rfl, -⟩
  · exact Text.not_isSpace_of_isDigit hdigit
  · decide
  · decide

theorem mapM_eq_map {f : Char → Option Char} (h : ∀ c ∈ text, f c = some (toAscii c)) :
    text.mapM f = some (text.map toAscii) := by
  induction text with
  | nil => rfl
  | cons c cs ih =>
      rw [List.forall_mem_cons] at h
      simp [List.mapM_cons, h.1, ih h.2]

theorem numericAsAscii_plain (h : ∀ c ∈ text, isPlain c) :
    numericAsAscii text = some (text.map toAscii) := by
  have hkept : text.filter (· ≠ '_') = text := by
    refine List.filter_eq_self.mpr fun c hc => ?_
    rcases toAscii_cases (h c hc) with ⟨hdigit, -⟩ | ⟨rfl, -⟩ | ⟨rfl, -⟩
    · have hne : c ≠ '_' := by
        rintro rfl
        exact absurd hdigit (by decide)
      simpa using hne
    · decide
    · decide
  rw [numericAsAscii, Text.strip_eq_self fun c hc => not_isSpace_of_isPlain (h c hc), hkept]
  refine mapM_eq_map fun c hc => ?_
  have hspace := not_isSpace_of_isPlain (h c hc)
  rcases toAscii_cases (h c hc) with ⟨hdigit, -⟩ | ⟨rfl, -⟩ | ⟨rfl, -⟩
  · obtain ⟨d, hd⟩ := Option.isSome_iff_exists.mp hdigit
    split
    next hascii => rw [toAscii_of_le hdigit hascii.2]
    next => simp [hspace, toAscii, hd]
  · decide
  · decide

-- A sign or none, the whole digits, and behind a point the digits of the fraction.
structure Numeral where
  negative : Bool
  whole : List Char
  fraction : Option (List Char)
  digits : ∀ c ∈ whole ++ fraction.getD [], asciiDigit c
  nonempty : whole ++ fraction.getD [] ≠ []

namespace Numeral

variable (numeral : Numeral)

def unsigned : List Char :=
  numeral.whole ++ numeral.fraction.elim [] ('.' :: ·)

def written : List Char :=
  if numeral.negative then '-' :: numeral.unsigned else numeral.unsigned

def coefficient : ℕ :=
  digitsValue (numeral.whole ++ numeral.fraction.getD [])

def exponent : ℤ :=
  -(numeral.fraction.getD []).length

def value : ℚ :=
  (if numeral.negative then -1 else 1) * numeral.coefficient * 10 ^ numeral.exponent

def Kept : Prop :=
  numeral.exponent + Nat.log 10 numeral.coefficient ≤ maxEmax ∧ minEtiny ≤ numeral.exponent

instance : Decidable numeral.Kept := inferInstanceAs (Decidable (_ ∧ _))

end Numeral

def isAsciiPlain (c : Char) : Bool :=
  asciiDigit c || c = '.' || c = '-'

theorem toLower_of_isAsciiPlain (h : isAsciiPlain c) : c.toLower = c := by
  have hpoints : ∀ n < 58, 45 ≤ n → (Char.ofNat n).toLower = Char.ofNat n := by decide
  have hrange : 45 ≤ c.toNat ∧ c.toNat < 58 := by
    simp only [isAsciiPlain, asciiDigit, Bool.or_eq_true, Bool.and_eq_true,
      decide_eq_true_eq] at h
    rcases h with (⟨hlow, hhigh⟩ | rfl) | rfl
    · have hlow' : 48 ≤ c.toNat := hlow
      have hhigh' : c.toNat ≤ 57 := hhigh
      omega
    · decide
    · decide
  have hlower := hpoints c.toNat hrange.2 hrange.1
  rwa [Char.ofNat_toNat] at hlower

theorem readSpecial_plain {negative : Bool} (h : ∀ c ∈ body, isAsciiPlain c) :
    readSpecial negative body = none := by
  have hlower : body.map Char.toLower = body :=
    (List.map_congr_left fun c hc => toLower_of_isAsciiPlain (h c hc)).trans (List.map_id _)
  have hn : 'n' ∉ body := fun hmem => absurd (h 'n' hmem) (by decide)
  have hne {word : List Char} (hword : 'n' ∈ word) : body ≠ word := fun heq => hn (heq ▸ hword)
  have hprefix {word : List Char} (hword : 'n' ∈ word) : ¬ word <+: body :=
    fun hle => hn (hle.subset hword)
  simp only [readSpecial, hlower]
  rw [if_neg, if_neg, if_neg]
  · exact fun h => hprefix (by decide) h.1
  · exact fun h => hprefix (by decide) h.1
  · exact not_or.mpr ⟨hne (by decide), hne (by decide)⟩

theorem readExponent_plain (rest : List Char) (h : ∀ c ∈ rest, isAsciiPlain c) :
    readExponent rest = if rest = [] then some 0 else none := by
  cases rest with
  | nil => rfl
  | cons c cs =>
      have hc : isAsciiPlain c := h c List.mem_cons_self
      have he : c ≠ 'e' ∧ c ≠ 'E' := by
        constructor <;> rintro rfl <;> exact absurd hc (by decide)
      simp [readExponent, he]

theorem takeWhile_digits (rest : List Char) (h : ∀ c ∈ digits, asciiDigit c)
    (hrest : ∀ c ∈ rest.head?, asciiDigit c = false) :
    (digits ++ rest).takeWhile asciiDigit = digits ∧
      (digits ++ rest).dropWhile asciiDigit = rest := by
  have hstop : rest.takeWhile asciiDigit = [] ∧ rest.dropWhile asciiDigit = rest := by
    cases rest with
    | nil => exact ⟨rfl, rfl⟩
    | cons c cs => simp [hrest c rfl]
  rw [List.takeWhile_append_of_pos h, List.dropWhile_append_of_pos h, hstop.1, hstop.2]
  simp

theorem readNumeral_unsigned (numeral : Numeral) :
    readNumeral numeral.unsigned = some (numeral.coefficient, numeral.exponent) := by
  obtain ⟨negative, whole, fraction, hdigits, hne⟩ := numeral
  simp only [Numeral.unsigned, Numeral.coefficient, Numeral.exponent]
  have hwhole : ∀ c ∈ whole, asciiDigit c := fun c hc => hdigits c (by simp [hc])
  cases fraction with
  | none =>
      obtain ⟨htake, hdrop⟩ := takeWhile_digits [] hwhole (by simp)
      have hwne : whole ≠ [] := by simpa using hne
      simp only [Option.elim_none, readNumeral, htake, hdrop, readFraction]
      simp [hwne, readExponent]
  | some fraction =>
      have hfraction : ∀ c ∈ fraction, asciiDigit c := fun c hc => hdigits c (by simp [hc])
      obtain ⟨htake, hdrop⟩ := takeWhile_digits ('.' :: fraction) hwhole (by simp; decide)
      obtain ⟨hftake, hfdrop⟩ := takeWhile_digits [] hfraction (by simp)
      have hsome : ¬ (whole = [] ∧ fraction = []) := by simpa using hne
      rw [List.append_nil] at hftake hfdrop
      simp only [Option.elim_some, readNumeral, htake, hdrop, readFraction, hftake, hfdrop, hsome,
        if_false]
      simp [readExponent]

theorem readNumeral_plain (h : ∀ c ∈ body, isAsciiPlain c) {read : ℕ × ℤ}
    (hread : readNumeral body = some read) :
    ∃ numeral : Numeral, numeral.negative = false ∧ numeral.unsigned = body := by
  have hbody := List.takeWhile_append_dropWhile (p := asciiDigit) (l := body)
  have hwhole : ∀ c ∈ body.takeWhile asciiDigit, asciiDigit c := fun c hc =>
    List.mem_takeWhile_imp hc
  have hrest : ∀ c ∈ body.dropWhile asciiDigit, isAsciiPlain c := fun c hc =>
    h c ((List.dropWhile_sublist _).subset hc)
  simp only [readNumeral] at hread
  generalize body.takeWhile asciiDigit = whole at hbody hwhole hread
  generalize body.dropWhile asciiDigit = rest at hbody hrest hread
  unfold readFraction at hread
  split at hread
  next cs =>
    have hcs : ∀ c ∈ cs, isAsciiPlain c := fun c hc => hrest c (List.mem_cons_of_mem _ hc)
    have hsplit := List.takeWhile_append_dropWhile (p := asciiDigit) (l := cs)
    have hfraction : ∀ c ∈ cs.takeWhile asciiDigit, asciiDigit c := fun c hc =>
      List.mem_takeWhile_imp hc
    have hend := readExponent_plain (cs.dropWhile asciiDigit) fun c hc =>
      hcs c ((List.dropWhile_sublist _).subset hc)
    simp only [hend] at hread
    split at hread
    · simp at hread
    next hsome =>
      by_cases hnil : cs.dropWhile asciiDigit = []
      · rw [hnil, List.append_nil] at hsplit
        rw [hsplit] at hsome hfraction
        refine ⟨⟨false, whole, some cs, ?_, ?_⟩, rfl, ?_⟩
        · intro c hc
          rcases List.mem_append.mp hc with hc | hc
          · exact hwhole c hc
          · exact hfraction c hc
        · simpa using hsome
        · simpa [Numeral.unsigned] using hbody
      · simp [hnil] at hread
  next =>
    have hend := readExponent_plain _ hrest
    simp only [hend] at hread
    split at hread
    · simp at hread
    next hsome =>
      by_cases hnil : rest = []
      · refine ⟨⟨false, whole, none, ?_, ?_⟩, rfl, ?_⟩
        · simpa using hwhole
        · simpa using hsome
        · simpa [Numeral.unsigned, hnil] using hbody
      · simp [hnil] at hread

theorem isAsciiPlain_toAscii (h : ∀ c ∈ text, isPlain c) :
    ∀ c ∈ text.map toAscii, isAsciiPlain c := by
  rw [List.forall_mem_map]
  intro c hc
  rcases toAscii_cases (h c hc) with ⟨-, hdigit⟩ | ⟨-, heq⟩ | ⟨-, heq⟩
  · simp [isAsciiPlain, hdigit]
  · rw [heq]
    decide
  · rw [heq]
    decide

theorem readSign_written (numeral : Numeral) :
    readSign numeral.written = (numeral.negative, numeral.unsigned) := by
  obtain ⟨negative, whole, fraction, hdigits, hne⟩ := numeral
  cases negative with
  | true => rfl
  | false =>
      simp only [Numeral.written, Numeral.unsigned, Bool.false_eq_true, if_false]
      cases whole with
      | nil =>
          cases fraction with
          | none => exact absurd rfl hne
          | some fraction => rfl
      | cons c cs =>
          have hc : asciiDigit c := hdigits c (by simp)
          unfold readSign
          split
          next heq =>
            obtain ⟨rfl, -⟩ := List.cons.inj heq
            exact absurd hc (by decide)
          next heq =>
            obtain ⟨rfl, -⟩ := List.cons.inj heq
            exact absurd hc (by decide)
          next => rfl

theorem unsigned_plain (h : ∀ c ∈ text, isPlain c) {numeral : Numeral}
    (hwritten : text.map toAscii = numeral.written) :
    ∀ c ∈ numeral.unsigned, isAsciiPlain c := by
  intro c hc
  refine isAsciiPlain_toAscii h c ?_
  rw [hwritten, Numeral.written]
  split
  · exact List.mem_cons_of_mem _ hc
  · exact hc

theorem parse_written (h : ∀ c ∈ text, isPlain c) {numeral : Numeral}
    (hwritten : text.map toAscii = numeral.written) :
    parse text = if numeral.Kept then some (.finite numeral.value) else none := by
  simp only [parse, numericAsAscii_plain h, hwritten, Option.bind_eq_bind, Option.bind_some,
    readSign_written, readSpecial_plain (unsigned_plain h hwritten)]
  change readFinite numeral.negative numeral.unsigned = _
  simp only [readFinite, readNumeral_unsigned]
  rfl

theorem exists_numeral (h : ∀ c ∈ text, isPlain c) {number : Number}
    (hparse : parse text = some number) :
    ∃ numeral : Numeral, text.map toAscii = numeral.written ∧ numeral.Kept ∧
      number = .finite numeral.value := by
  suffices hwritten : ∃ numeral : Numeral, text.map toAscii = numeral.written by
    obtain ⟨numeral, hwritten⟩ := hwritten
    rw [parse_written h hwritten] at hparse
    split at hparse
    next hkept => exact ⟨numeral, hwritten, hkept, (Option.some.inj hparse).symm⟩
    next => simp at hparse
  have hplain := isAsciiPlain_toAscii h
  simp only [parse, numericAsAscii_plain h, Option.bind_eq_bind, Option.bind_some] at hparse
  generalize text.map toAscii = ascii at hplain hparse
  have hbody : ∀ c ∈ (readSign ascii).2, isAsciiPlain c := by
    intro c hc
    refine hplain c ?_
    unfold readSign at hc
    split at hc
    · exact List.mem_cons_of_mem _ hc
    · exact List.mem_cons_of_mem _ hc
    · exact hc
  rw [readSpecial_plain hbody] at hparse
  change readFinite (readSign ascii).1 (readSign ascii).2 = some number at hparse
  obtain ⟨read, hread, -⟩ := Option.bind_eq_some_iff.mp hparse
  obtain ⟨numeral, hnegative, hunsigned⟩ := readNumeral_plain hbody hread
  refine ⟨{ numeral with negative := (readSign ascii).1 }, ?_⟩
  change ascii = if (readSign ascii).1 then '-' :: numeral.unsigned else numeral.unsigned
  rw [hunsigned]
  unfold readSign
  split
  next => rfl
  next => exact absurd (hplain '+' List.mem_cons_self) (by decide)
  next => rfl

theorem abs_value_lt (numeral : Numeral) : |numeral.value| < 10 ^ numeral.written.length := by
  have hcoefficient : numeral.coefficient < 10 ^ numeral.written.length := by
    refine (digitsValue_lt numeral.digits).trans_le (Nat.pow_le_pow_right (by omega) ?_)
    simp only [Numeral.written, Numeral.unsigned]
    cases numeral.fraction with
    | none => split <;> simp
    | some fraction =>
        split
        · simp; omega
        · simp
  have hscale : (10 : ℚ) ^ numeral.exponent ≤ 1 :=
    zpow_le_one_of_nonpos₀ (by norm_num) (by simp [Numeral.exponent])
  have hsign : |(if numeral.negative then -1 else 1 : ℚ)| = 1 := by
    split <;> norm_num
  rw [Numeral.value, abs_mul, abs_mul, hsign, one_mul, Nat.abs_cast,
    abs_of_pos (zpow_pos (by norm_num) _)]
  calc (numeral.coefficient : ℚ) * 10 ^ numeral.exponent
      ≤ numeral.coefficient := mul_le_of_le_one_right (by positivity) hscale
    _ < 10 ^ numeral.written.length := by exact_mod_cast hcoefficient

theorem parse_bounded (h : ∀ c ∈ text, isPlain c) {number : Number}
    (hparse : parse text = some number) :
    ∃ x, number = .finite x ∧ |x| < 10 ^ text.length := by
  obtain ⟨numeral, hwritten, -, rfl⟩ := exists_numeral h hparse
  refine ⟨_, rfl, ?_⟩
  have hlt := abs_value_lt numeral
  rwa [← hwritten, List.length_map] at hlt

end Decimal
