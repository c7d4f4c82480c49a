import Dialer.Text.Basic

/-!
# Hexadecimal digits

* `isHexDigit` holds of `0`–`9`, `A`–`F` and `a`–`f`.
* `hexValue` reads digits of either case; `hexLower` and `hexUpper` write a fixed number of them.
-/

namespace Dialer.Text

/-- Whether the character is a hexadecimal digit of either case. -/
def isHexDigit (c : CodePoint) : Bool :=
  c.isDigit || ('a' ≤ c && c ≤ 'f') || ('A' ≤ c && c ≤ 'F')

/-- The value of a hexadecimal digit, and zero for any other character. -/
def hexDigitValue (c : CodePoint) : Nat :=
  if c.isDigit then c.toNat - '0'.toNat
  else if 'a' ≤ c && c ≤ 'f' then c.toNat - 'a'.toNat + 10
  else if 'A' ≤ c && c ≤ 'F' then c.toNat - 'A'.toNat + 10
  else 0

/-- The number that hexadecimal digits spell. -/
def hexValue (digits : Text) : Nat :=
  digits.foldl (fun n c => 16 * n + hexDigitValue c) 0

/-- The digit of a value below sixteen, with letters from `a`. -/
def hexDigitLower (n : Nat) : CodePoint :=
  if n < 10 then CodePoint.ofNat ('0'.toNat + n) else CodePoint.ofNat ('a'.toNat + (n - 10))

/-- The digit of a value below sixteen, with letters from `A`. -/
def hexDigitUpper (n : Nat) : CodePoint :=
  if n < 10 then CodePoint.ofNat ('0'.toNat + n) else CodePoint.ofNat ('A'.toNat + (n - 10))

/-- The last `width` lower-case hexadecimal digits of a number. -/
def hexLower : (width : Nat) → Nat → Text
  | 0, _ => []
  | width + 1, n => hexLower width (n / 16) ++ [hexDigitLower (n % 16)]

/-- The two upper-case hexadecimal digits of a byte. -/
def hexUpper (b : UInt8) : Text :=
  [hexDigitUpper (b.toNat / 16), hexDigitUpper (b.toNat % 16)]

theorem isHexDigit_hexDigitUpper {n : Nat} (h : n < 16) : isHexDigit (hexDigitUpper n) = true := by
  have all : ∀ m ∈ List.range 16, isHexDigit (hexDigitUpper m) = true := by decide
  exact all n (List.mem_range.mpr h)

end Dialer.Text
