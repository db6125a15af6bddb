import Mathlib
import NextgenBackend.Library.InBand

-- Form encoding: a byte stands for itself, is a plus sign, or is written in hexadecimal.
namespace Percent

def isUnreserved (byte : Nat) : Bool :=
  Nat.ble 48 byte && Nat.ble byte 57 || Nat.ble 65 byte && Nat.ble byte 90 ||
    Nat.ble 97 byte && Nat.ble byte 122 || byte = 95 || byte = 46 || byte = 45 || byte = 126

def hexDigit (n : Nat) : Char :=
  Char.ofNat (if n < 10 then 48 + n else 55 + n)

def quoteByte (byte : Nat) : List Char :=
  if isUnreserved byte then [Char.ofNat byte]
  else if byte = 32 then ['+']
  else ['%', hexDigit (byte / 16), hexDigit (byte % 16)]

def bytes (text : String) : List UInt8 :=
  text.toByteArray.data.toList

def quotePlus (text : String) : List Char :=
  (bytes text).flatMap fun byte => quoteByte byte.toNat

def hexValue (c : Char) : Nat :=
  if c.toNat < 65 then c.toNat - 48 else c.toNat - 55

def unquoteByte : List Char → Nat
  | ['+'] => 32
  | ['%', high, low] => 16 * hexValue high + hexValue low
  | c :: _ => c.toNat
  | [] => 0

variable {n n' : Nat} {rest rest' : List Char} {text text' : String} {c : Char}

-- The code of a byte decodes to it, its first character tells its length, and no separator is in it.
theorem quoteByte_spec : n < 256 → unquoteByte (quoteByte n) = n ∧
    ((quoteByte n).length = if (quoteByte n).head? = some '%' then 3 else 1) ∧
      (quoteByte n).all (fun c => c ≠ '&' ∧ c ≠ '=') = true := by
  revert n
  decide +kernel

theorem unquoteByte_quoteByte (h : n < 256) : unquoteByte (quoteByte n) = n :=
  (quoteByte_spec h).1

theorem length_quoteByte (h : n < 256) :
    (quoteByte n).length = if (quoteByte n).head? = some '%' then 3 else 1 :=
  (quoteByte_spec h).2.1

theorem plain_of_mem_quoteByte (h : n < 256) : ∀ c ∈ quoteByte n, c ≠ '&' ∧ c ≠ '=' :=
  fun c hc => of_decide_eq_true (List.all_eq_true.mp (quoteByte_spec h).2.2 c hc)

theorem quoteByte_ne_nil (h : n < 256) : quoteByte n ≠ [] := by
  intro hnil
  have hlength := length_quoteByte h
  rw [hnil] at hlength
  cases hlength

theorem head?_quoteByte (h : n < 256) :
    (quoteByte n ++ rest).head? = (quoteByte n).head? := by
  obtain ⟨c, code, hcode⟩ := List.exists_cons_of_ne_nil (quoteByte_ne_nil h)
  rw [hcode]
  rfl

theorem eq_of_quoteByte_append (h : n < 256) (h' : n' < 256)
    (happend : quoteByte n ++ rest = quoteByte n' ++ rest') : n = n' := by
  have hhead := congrArg List.head? happend
  rw [head?_quoteByte h, head?_quoteByte h'] at hhead
  have hlength : (quoteByte n).length = (quoteByte n').length := by
    rw [length_quoteByte h, length_quoteByte h', hhead]
  rw [← unquoteByte_quoteByte h, ← unquoteByte_quoteByte h']
  exact congrArg _ (List.append_inj_left happend hlength)

theorem bytes_injective : Function.Injective bytes := fun _ _ h =>
  String.toByteArray_inj.mp (ByteArray.ext (Array.toList_inj.mp h))

theorem quotePlus_injective : Function.Injective quotePlus := by
  intro text text' h
  have hcode (byte : UInt8) : quoteByte byte.toNat ≠ [] := quoteByte_ne_nil byte.toNat_lt
  refine bytes_injective ((InBand.flatMap_inj ?_ (fun _ _ => hcode _) fun _ _ => hcode _).mp h)
  intro byte byte' _ _ _ _ happend
  exact UInt8.toNat_inj.mp (eq_of_quoteByte_append byte.toNat_lt byte'.toNat_lt happend)

theorem plain_of_mem_quotePlus (h : c ∈ quotePlus text) : c ≠ '&' ∧ c ≠ '=' := by
  obtain ⟨byte, -, hc⟩ := List.mem_flatMap.mp h
  exact plain_of_mem_quoteByte byte.toNat_lt c hc

end Percent
