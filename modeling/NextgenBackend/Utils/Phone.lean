import Mathlib

namespace NextgenBackend.Phone

def digitRanges : List (Nat × Nat) :=
  [(48, 57), (178, 179), (185, 185), (1632, 1641), (1776, 1785), (1984, 1993), (2406, 2415),
    (2534, 2543), (2662, 2671), (2790, 2799), (2918, 2927), (3046, 3055), (3174, 3183),
    (3302, 3311), (3430, 3439), (3558, 3567), (3664, 3673), (3792, 3801), (3872, 3881),
    (4160, 4169), (4240, 4249), (4969, 4977), (6112, 6121), (6160, 6169), (6470, 6479),
    (6608, 6618), (6784, 6793), (6800, 6809), (6992, 7001), (7088, 7097), (7232, 7241),
    (7248, 7257), (8304, 8304), (8308, 8313), (8320, 8329), (9312, 9320), (9332, 9340),
    (9352, 9360), (9450, 9450), (9461, 9469), (9471, 9471), (10102, 10110), (10112, 10120),
    (10122, 10130), (42528, 42537), (43216, 43225), (43264, 43273), (43472, 43481),
    (43504, 43513), (43600, 43609), (44016, 44025), (65296, 65305), (66720, 66729),
    (68160, 68163), (68912, 68921), (69216, 69224), (69714, 69722), (69734, 69743),
    (69872, 69881), (69942, 69951), (70096, 70105), (70384, 70393), (70736, 70745),
    (70864, 70873), (71248, 71257), (71360, 71369), (71472, 71481), (71904, 71913),
    (72016, 72025), (72784, 72793), (73040, 73049), (73120, 73129), (92768, 92777),
    (92864, 92873), (93008, 93017), (120782, 120831), (123200, 123209), (123632, 123641),
    (125264, 125273), (127232, 127242), (130032, 130041)]

def spaceRanges : List (Nat × Nat) :=
  [(9, 13), (28, 32), (133, 133), (160, 160), (5760, 5760), (8192, 8202), (8232, 8233),
    (8239, 8239), (8287, 8287), (12288, 12288)]

def inRanges (ranges : List (Nat × Nat)) (c : Char) : Bool :=
  ranges.any fun (low, high) => low ≤ c.toNat && c.toNat ≤ high

def isDigit (cs : List Char) : Bool :=
  !cs.isEmpty && cs.all (inRanges digitRanges)

def stripChars (cs : List Char) : List Char :=
  cs.filter fun c => !(inRanges spaceRanges c || c = '-' || c = '(' || c = ')')

def nationalPart (cleaned : List Char) : Option (List Char) :=
  match cleaned with
  | '+' :: digits =>
      if isDigit digits && ['2', '7'].isPrefixOf digits && digits.length = 11 then
        some (digits.drop 2)
      else none
  | _ =>
      if !isDigit cleaned then none
      else if ['2', '7'].isPrefixOf cleaned && cleaned.length = 11 then some (cleaned.drop 2)
      else if ['0'].isPrefixOf cleaned && cleaned.length = 10 then some (cleaned.drop 1)
      else none

def normalizeSaMobile (raw : String) : Option String :=
  match nationalPart (stripChars raw.toList) with
  | none => none
  | some national =>
      if national.length = 9 && isDigit national &&
          (national.head?.any fun c => c = '6' || c = '7' || c = '8') then
        some (String.ofList ("+27".toList ++ national))
      else none

example : normalizeSaMobile "(082) 123-4567" = some "+27821234567" := by decide

section MobileNumbers

-- The nine digits that follow the country code or the trunk zero.
structure Mobile (national : List Char) : Prop where
  length : national.length = 9
  digits : isDigit national = true
  mobile : (national.head?.any fun c => c = '6' || c = '7' || c = '8') = true

instance (national : List Char) : Decidable (Mobile national) :=
  decidable_of_iff (national.length = 9 ∧ isDigit national = true ∧
    (national.head?.any fun c => c = '6' || c = '7' || c = '8') = true)
    ⟨fun h => ⟨h.1, h.2.1, h.2.2⟩, fun h => ⟨h.length, h.digits, h.mobile⟩⟩

def spellings (national : List Char) : List (List Char) :=
  [['0'] ++ national, ['2', '7'] ++ national, ['+', '2', '7'] ++ national]

def canonical (national : List Char) : String :=
  String.ofList ("+27".toList ++ national)

variable {cleaned national : List Char} {raw number : String}

theorem isDigit_append (digits : List Char) (hstart : isDigit digits = true)
    (hne : national ≠ []) : isDigit (digits ++ national) = isDigit national := by
  unfold isDigit at *
  cases national with
  | nil => contradiction
  | cons c cs =>
      rw [Bool.and_eq_true] at hstart
      simp [List.all_append, hstart.2]

theorem eq_append_drop {start text : List Char} (h : start.isPrefixOf text = true) :
    text = start ++ text.drop start.length := by
  obtain ⟨rest, rfl⟩ := List.isPrefixOf_iff_prefix.mp h
  rw [List.drop_left]

theorem mem_spellings_of_nationalPart (h : nationalPart cleaned = some national) :
    cleaned ∈ spellings national := by
  unfold nationalPart at h
  unfold spellings
  split at h
  next digits =>
    split at h
    next hplus =>
      simp only [Bool.and_eq_true, decide_eq_true_eq] at hplus
      rw [eq_append_drop hplus.1.2]
      simp [← Option.some.inj h]
    next => cases h
  next =>
    split at h
    · cases h
    · split at h
      next hcountry =>
        rw [Bool.and_eq_true] at hcountry
        rw [eq_append_drop hcountry.1]
        simp [← Option.some.inj h]
      next =>
        split at h
        next htrunk =>
          rw [Bool.and_eq_true] at htrunk
          rw [eq_append_drop htrunk.1]
          simp [← Option.some.inj h]
        next => cases h

theorem nationalPart_of_mem_spellings (hnational : Mobile national)
    (h : cleaned ∈ spellings national) : nationalPart cleaned = some national := by
  have hne : national ≠ [] := List.ne_nil_of_length_pos (by rw [hnational.length]; decide)
  have hlength := hnational.length
  have hzero : isDigit ('0' :: national) = true :=
    (isDigit_append ['0'] (by decide) hne).trans hnational.digits
  have hcountry : isDigit ('2' :: '7' :: national) = true :=
    (isDigit_append ['2', '7'] (by decide) hne).trans hnational.digits
  simp only [spellings, List.mem_cons, List.not_mem_nil, or_false] at h
  rcases h with rfl | rfl | rfl
  · simp [nationalPart, hzero, hlength]
  · simp [nationalPart, hcountry, hlength]
  · simp [nationalPart, hcountry, hlength]

theorem normalizeSaMobile_eq_some_iff :
    normalizeSaMobile raw = some number ↔
      ∃ national, Mobile national ∧ stripChars raw.toList ∈ spellings national ∧
        number = canonical national := by
  unfold normalizeSaMobile
  constructor
  · intro h
    split at h
    · cases h
    next national hpart =>
      split at h
      next hmobile =>
        simp only [Bool.and_eq_true, decide_eq_true_eq] at hmobile
        exact ⟨national, ⟨hmobile.1.1, hmobile.1.2, hmobile.2⟩,
          mem_spellings_of_nationalPart hpart, (Option.some.inj h).symm⟩
      · cases h
  · rintro ⟨national, hnational, hspelled, rfl⟩
    rw [nationalPart_of_mem_spellings hnational hspelled]
    dsimp only
    rw [if_pos (by simp [hnational.length, hnational.digits, hnational.mobile])]
    rfl

theorem ranges_apart : ∀ digits ∈ digitRanges, ∀ spaces ∈ spaceRanges,
    digits.2 < spaces.1 ∨ spaces.2 < digits.1 := by
  decide +kernel

-- No digit is a separator.
theorem kept_of_digit {c : Char} (h : inRanges digitRanges c = true) :
    (!(inRanges spaceRanges c || c = '-' || c = '(' || c = ')')) = true := by
  have hspace : inRanges spaceRanges c = false := by
    by_contra hspace
    obtain ⟨digits, hdigits, hlow⟩ := List.any_eq_true.mp h
    obtain ⟨spaces, hspaces, hhigh⟩ := List.any_eq_true.mp ((Bool.not_eq_false _).mp hspace)
    have hapart := ranges_apart digits hdigits spaces hspaces
    simp only [Bool.and_eq_true, decide_eq_true_eq] at hlow hhigh
    omega
  have hne (separator : Char) (hseparator : inRanges digitRanges separator = false) :
      c ≠ separator := by
    rintro rfl
    rw [h] at hseparator
    cases hseparator
  simp [hspace, hne '-' (by decide +kernel), hne '(' (by decide +kernel), hne ')' (by decide +kernel)]

theorem stripChars_canonical (h : Mobile national) :
    stripChars (canonical national).toList = ['+', '2', '7'] ++ national := by
  have hdigits := h.digits
  unfold isDigit at hdigits
  rw [Bool.and_eq_true] at hdigits
  have hkept : stripChars national = national :=
    List.filter_eq_self.mpr fun c hc => kept_of_digit (List.all_eq_true.mp hdigits.2 c hc)
  have hstart : stripChars ['+', '2', '7'] = ['+', '2', '7'] := by decide +kernel
  unfold canonical
  rw [String.toList_ofList]
  exact (List.filter_append _ _).trans (congrArg₂ (· ++ ·) hstart hkept)

theorem normalizeSaMobile_idempotent (h : normalizeSaMobile raw = some number) :
    normalizeSaMobile number = some number := by
  obtain ⟨national, hnational, -, rfl⟩ := normalizeSaMobile_eq_some_iff.mp h
  refine normalizeSaMobile_eq_some_iff.mpr ⟨national, hnational, ?_, rfl⟩
  rw [stripChars_canonical hnational]
  simp [spellings]

def AsciiDigits (text : List Char) : Prop :=
  ∀ c ∈ text, inRanges digitRanges c = true → c.isDigit = true

instance (text : List Char) : Decidable (AsciiDigits text) :=
  List.decidableBAll _ text

inductive IsSaMobile : String → Prop
  | intro {lead : Char} {rest : List Char} (hlead : lead = '6' ∨ lead = '7' ∨ lead = '8')
      (hlength : rest.length = 8) (hdigits : ∀ c ∈ rest, c.isDigit = true) :
      IsSaMobile (String.ofList (['+', '2', '7'] ++ lead :: rest))

theorem isSaMobile_of_normalized (hascii : AsciiDigits raw.toList)
    (h : normalizeSaMobile raw = some number) : IsSaMobile number := by
  obtain ⟨national, hnational, hspelled, rfl⟩ := normalizeSaMobile_eq_some_iff.mp h
  have hmem : ∀ c ∈ national, c ∈ raw.toList := by
    intro c hc
    have hstripped : c ∈ stripChars raw.toList := by
      simp only [spellings, List.mem_cons, List.not_mem_nil, or_false] at hspelled
      rcases hspelled with hs | hs | hs <;>
      · rw [hs]
        exact List.mem_append_right _ hc
    exact List.mem_of_mem_filter hstripped
  have hdigits := hnational.digits
  unfold isDigit at hdigits
  rw [Bool.and_eq_true] at hdigits
  have hplain (c : Char) (hc : c ∈ national) : c.isDigit = true :=
    hascii c (hmem c hc) (List.all_eq_true.mp hdigits.2 c hc)
  obtain ⟨length, -, hmobile⟩ := hnational
  cases national with
  | nil => cases length
  | cons lead rest =>
      refine .intro ?_ (Nat.succ.inj length) fun c hc => hplain c (List.mem_cons_of_mem _ hc)
      simpa [or_assoc] using hmobile

-- The international trunk code is no accepted spelling.
theorem normalizeSaMobile_trunk (h : stripChars raw.toList = ['0', '0', '2', '7'] ++ national) :
    normalizeSaMobile raw = none := by
  cases hnormalized : normalizeSaMobile raw with
  | none => rfl
  | some number =>
      obtain ⟨national', hnational, hspelled, -⟩ := normalizeSaMobile_eq_some_iff.mp hnormalized
      rw [h] at hspelled
      simp only [spellings, List.mem_cons, List.not_mem_nil, or_false, List.cons_append,
        List.nil_append] at hspelled
      rcases hspelled with hs | hs | hs
      · have hmobile := hnational.mobile
        rw [← (List.cons.inj hs).2] at hmobile
        simp at hmobile
      · cases (List.cons.inj hs).1
      · cases (List.cons.inj hs).1

end MobileNumbers

end NextgenBackend.Phone
