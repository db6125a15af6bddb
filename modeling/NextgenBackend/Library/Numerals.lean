import Mathlib

namespace Numerals

-- The digits of a base, the smallest first.
structure Base where
  digits : List Char
  nodup : digits.Nodup
  pos : 0 < digits.length

def decimal : Base := ⟨"0123456789".toList, by decide, by decide⟩

def hexadecimal : Base := ⟨"0123456789abcdef".toList, by decide, by decide⟩

def base64 : Base :=
  ⟨"ABCDEFGHIJKLMNOPQRSTUVWXYZabcdefghijklmnopqrstuvwxyz0123456789-_".toList,
    by decide, by decide⟩

namespace Base

def radix (b : Base) : ℕ := b.digits.length

def digit (b : Base) (d : ℕ) : Char := b.digits.getD d '0'

-- A number in so many digits.
def written (b : Base) : ℕ → ℕ → List Char
  | 0, _ => []
  | width + 1, n => b.written width (n / b.radix) ++ [b.digit (n % b.radix)]

def value (b : Base) (text : List Char) : ℕ :=
  text.foldl (fun n c => b.radix * n + b.digits.idxOf c) 0

variable {b : Base} {width n d : ℕ}

theorem idxOf_digit (h : d < b.radix) : b.digits.idxOf (b.digit d) = d := by
  unfold digit
  rw [List.getD_eq_getElem _ _ h]
  exact b.nodup.idxOf_getElem d h

theorem digit_mem (h : d < b.radix) : b.digit d ∈ b.digits := by
  unfold digit
  rw [List.getD_eq_getElem _ _ h]
  exact List.getElem_mem h

theorem length_written : (b.written width n).length = width := by
  induction width generalizing n with
  | zero => rfl
  | succ width ih => rw [written, List.length_append, ih, List.length_singleton]

theorem value_append_singleton {text : List Char} {c : Char} :
    b.value (text ++ [c]) = b.radix * b.value text + b.digits.idxOf c := by
  unfold value
  rw [List.foldl_append]
  rfl

theorem mem_written {c : Char} (h : c ∈ b.written width n) : c ∈ b.digits := by
  induction width generalizing n with
  | zero => cases h
  | succ width ih =>
      rcases List.mem_append.mp h with h | h
      · exact ih h
      · rw [List.mem_singleton.mp h]
        exact digit_mem (Nat.mod_lt _ b.pos)

theorem value_written (h : n < b.radix ^ width) : b.value (b.written width n) = n := by
  induction width generalizing n with
  | zero =>
      rw [Nat.pow_zero, Nat.lt_one_iff] at h
      rw [h]
      rfl
  | succ width ih =>
      have hdiv : n / b.radix < b.radix ^ width := by
        rw [Nat.pow_succ] at h
        exact Nat.div_lt_of_lt_mul (by rwa [Nat.mul_comm])
      rw [written, value_append_singleton, ih hdiv, idxOf_digit (Nat.mod_lt _ b.pos)]
      exact Nat.div_add_mod n b.radix

theorem digit_idxOf {c : Char} (h : c ∈ b.digits) : b.digit (b.digits.idxOf c) = c := by
  unfold digit
  rw [List.getD_eq_getElem _ _ (List.idxOf_lt_length_of_mem h)]
  exact List.getElem_idxOf (List.idxOf_lt_length_of_mem h)

theorem value_lt {text : List Char} (h : ∀ c ∈ text, c ∈ b.digits) :
    b.value text < b.radix ^ text.length := by
  induction text using List.reverseRecOn with
  | nil => exact Nat.one_pos
  | append_singleton text c ih =>
      have hrest := ih fun d hd => h d (List.mem_append_left _ hd)
      have hlast : b.digits.idxOf c < b.radix :=
        List.idxOf_lt_length_of_mem (h c (by simp))
      rw [value_append_singleton, List.length_append, List.length_singleton, Nat.pow_succ]
      calc b.radix * b.value text + b.digits.idxOf c
          < b.radix * b.value text + b.radix := by omega
        _ = b.radix * (b.value text + 1) := by rw [Nat.mul_add, Nat.mul_one]
        _ ≤ b.radix * b.radix ^ text.length := Nat.mul_le_mul_left _ hrest
        _ = b.radix ^ text.length * b.radix := Nat.mul_comm _ _

theorem written_value {text : List Char} (h : ∀ c ∈ text, c ∈ b.digits) :
    b.written text.length (b.value text) = text := by
  induction text using List.reverseRecOn with
  | nil => rfl
  | append_singleton text c ih =>
      have hc : c ∈ b.digits := h c (by simp)
      have hlast : b.digits.idxOf c < b.radix := List.idxOf_lt_length_of_mem hc
      have hdiv : (b.radix * b.value text + b.digits.idxOf c) / b.radix = b.value text := by
        rw [Nat.mul_add_div (show 0 < b.radix from b.pos), Nat.div_eq_of_lt hlast, Nat.add_zero]
      have hmod : (b.radix * b.value text + b.digits.idxOf c) % b.radix = b.digits.idxOf c := by
        rw [Nat.mul_add_mod, Nat.mod_eq_of_lt hlast]
      rw [List.length_append, List.length_singleton, written, value_append_singleton, hdiv, hmod,
        ih fun d hd => h d (List.mem_append_left _ hd), digit_idxOf hc]

end Base

section Bytes

-- Every three bytes are four digits; one or two that are left over are padded.
def encode : List UInt8 → List Char
  | [] => []
  | [x] => base64.written 2 (x.toNat * 16) ++ ['=', '=']
  | [x, y] => base64.written 3 ((x.toNat * 256 + y.toNat) * 4) ++ ['=']
  | x :: y :: z :: rest =>
      base64.written 4 ((x.toNat * 256 + y.toNat) * 256 + z.toNat) ++ encode rest

def decode : List Char → Option (List UInt8)
  | [] => some []
  | p :: q :: r :: s :: rest =>
      if r = '=' then some [.ofNat (base64.value [p, q] / 16)]
      else if s = '=' then
        some [.ofNat (base64.value [p, q, r] / 1024), .ofNat (base64.value [p, q, r] / 4)]
      else (decode rest).map fun bytes =>
        .ofNat (base64.value [p, q, r, s] / 65536) :: .ofNat (base64.value [p, q, r, s] / 256) ::
          .ofNat (base64.value [p, q, r, s]) :: bytes
  | _ => none

theorem ofNat_eq {x : UInt8} {n : ℕ} (h : n % 256 = x.toNat) : UInt8.ofNat n = x := by
  apply UInt8.toNat_inj.mp
  rw [UInt8.toNat_ofNat', h]

theorem value_written64 (width n : ℕ) (h : n < 64 ^ width) :
    base64.value (base64.written width n) = n :=
  Base.value_written h

theorem ne_padding (width n : ℕ) {c : Char} (h : c ∈ base64.written width n) : c ≠ '=' := by
  rintro rfl
  exact absurd (Base.mem_written h) (by decide)

theorem exists_two (n : ℕ) : ∃ p q, base64.written 2 n = [p, q] := ⟨_, _, rfl⟩

theorem exists_three (n : ℕ) : ∃ p q r, base64.written 3 n = [p, q, r] := ⟨_, _, _, rfl⟩

theorem exists_four (n : ℕ) : ∃ p q r s, base64.written 4 n = [p, q, r, s] := ⟨_, _, _, _, rfl⟩

theorem decode_encode (bytes : List UInt8) : decode (encode bytes) = some bytes := by
  fun_induction encode bytes with
  | case1 => rfl
  | case2 x =>
      have hx := x.toNat_lt
      obtain ⟨p, q, hdigits⟩ := exists_two (x.toNat * 16)
      have hvalue := value_written64 2 (x.toNat * 16) (by omega)
      rw [hdigits] at hvalue ⊢
      rw [List.cons_append, List.cons_append, List.nil_append, decode, if_pos rfl, hvalue]
      rw [ofNat_eq (x := x) (by omega)]
  | case3 x y =>
      have hx := x.toNat_lt
      have hy := y.toNat_lt
      obtain ⟨p, q, r, hdigits⟩ := exists_three ((x.toNat * 256 + y.toNat) * 4)
      have hvalue := value_written64 3 ((x.toNat * 256 + y.toNat) * 4) (by omega)
      have hr : r ≠ '=' := ne_padding 3 _ (by rw [hdigits]; simp)
      rw [hdigits] at hvalue ⊢
      rw [List.cons_append, List.cons_append, List.cons_append, List.nil_append, decode,
        if_neg hr, if_pos rfl, hvalue]
      rw [ofNat_eq (x := x) (by omega), ofNat_eq (x := y) (by omega)]
  | case4 x y z rest ih =>
      have hx := x.toNat_lt
      have hy := y.toNat_lt
      have hz := z.toNat_lt
      obtain ⟨p, q, r, s, hdigits⟩ := exists_four ((x.toNat * 256 + y.toNat) * 256 + z.toNat)
      have hvalue := value_written64 4 ((x.toNat * 256 + y.toNat) * 256 + z.toNat)
        (by omega)
      have hr : r ≠ '=' := ne_padding 4 _ (by rw [hdigits]; simp)
      have hs : s ≠ '=' := ne_padding 4 _ (by rw [hdigits]; simp)
      rw [hdigits] at hvalue ⊢
      rw [List.cons_append, List.cons_append, List.cons_append, List.cons_append, List.nil_append,
        decode, if_neg hr, if_neg hs, ih, hvalue, Option.map_some]
      rw [ofNat_eq (x := x) (by omega), ofNat_eq (x := y) (by omega), ofNat_eq (x := z) (by omega)]

end Bytes

end Numerals
