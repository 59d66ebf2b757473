/-
# Octets in hexadecimal

Each octet is written as two lower-case digits, the high half first.  Reading takes digits of either
case; `unhex_hex` says that it gives back what was written.
-/
import Readout.Bytes

namespace Readout.Text

/-! ## 1. Writing -/

/-- The two digits of an octet. -/
def hexDigits (b : UInt8) : List Char := [Nat.digitChar (b.toNat / 16), Nat.digitChar (b.toNat % 16)]

/-- The hexadecimal text of octets. -/
def hex (bs : Bytes) : String := String.ofList (bs.flatMap hexDigits)

theorem length_hex (bs : Bytes) : (hex bs).length = 2 * bs.length := by
  induction bs with
  | nil => rfl
  | cons b bs ih =>
    simp only [hex, String.length_ofList, List.flatMap_cons, List.length_append,
      List.length_cons] at ih ⊢
    simp only [hexDigits, List.length_cons, List.length_nil]
    omega

/-! ## 2. Reading -/

/-- The value of a hexadecimal digit. -/
def hexDigit? (c : Char) : Option Nat :=
  if '0' ≤ c ∧ c ≤ '9' then some (c.toNat - '0'.toNat)
  else if 'a' ≤ c ∧ c ≤ 'f' then some (c.toNat - 'a'.toNat + 10)
  else if 'A' ≤ c ∧ c ≤ 'F' then some (c.toNat - 'A'.toNat + 10)
  else none

/-- The octet of two digits, of which one that is none counts as zero. -/
def octetOf (high low : Char) : UInt8 :=
  UInt8.ofNat ((hexDigit? high).getD 0 * 16 + (hexDigit? low).getD 0)

/-- The octets of pairs of digits, after those read already; a digit left over has no meaning. -/
def unhexAfter (read : Array UInt8) : List Char → Array UInt8
  | high :: low :: rest => unhexAfter (read.push (octetOf high low)) rest
  | _ => read

/-- The octets that pairs of digits spell. -/
def unhex (digits : List Char) : Bytes := (unhexAfter #[] digits).toList

theorem hexDigit?_digitChar : ∀ n < 16, hexDigit? (Nat.digitChar n) = some n := by decide

theorem octetOf_hexDigits (b : UInt8) :
    octetOf (Nat.digitChar (b.toNat / 16)) (Nat.digitChar (b.toNat % 16)) = b := by
  have h := b.toNat_lt
  rw [octetOf, hexDigit?_digitChar _ (by omega), hexDigit?_digitChar _ (by omega)]
  simp only [Option.getD_some, Nat.div_add_mod', UInt8.ofNat_toNat]

theorem unhexAfter_hexDigits (read : Array UInt8) (bs : Bytes) :
    (unhexAfter read (bs.flatMap hexDigits)).toList = read.toList ++ bs := by
  induction bs generalizing read with
  | nil => simp [unhexAfter]
  | cons b bs ih => simp [hexDigits, unhexAfter, octetOf_hexDigits, ih]

/-- **Reading gives back the octets that were written.** -/
theorem unhex_hex (bs : Bytes) : unhex (hex bs).toList = bs := by
  simp [unhex, hex, unhexAfter_hexDigits]

end Readout.Text
