import Dialer.Text.Decimal

/-!
# Decimal fractions

A decimal fraction is a coefficient times a power of ten. Zero has a sign too.

* `Fraction.numeral` writes a fraction with its significant digits: with a point where the power of
  ten of the first digit is moderate, and with an exponent elsewhere.
-/

namespace Dialer.Text

/-- A coefficient times a power of ten, with a sign. -/
structure Fraction where
  negative : Bool
  coefficient : Nat
  exponent : Int
  deriving DecidableEq

namespace Fraction

/-- The least power of ten that a first digit may have in a numeral without an exponent. -/
def leastPositional : Int := -4

/-- The greatest power of ten that a first digit may have in a numeral without an exponent. -/
def greatestPositional : Int := 15

/-- Digits without the zeros at their end, of which a lone zero keeps one. -/
def significant (digits : Text) : Text :=
  match (digits.reverse.dropWhile (· = char '0')).reverse with
  | [] => [char '0']
  | trimmed => trimmed

/-- An exponent: a sign and at least two digits. -/
def exponentText (n : Int) : Text :=
  let magnitude := digits n.natAbs
  char (if n < 0 then '-' else '+') :: List.replicate (2 - magnitude.length) (char '0') ++ magnitude

/-- Digits with a point after the first `whole` of them and a digit on either side of it. -/
def pointed (whole : Int) (s : Text) : Text :=
  if whole ≤ 0 then char '0' :: char '.' :: List.replicate whole.natAbs (char '0') ++ s
  else
    let n := whole.toNat
    let after := if s.length ≤ n then [char '0'] else s.drop n
    s.take n ++ List.replicate (n - s.length) (char '0') ++ char '.' :: after

/-- Digits with a point after the first, if more follow, and an exponent. -/
def scaled (power : Int) (s : Text) : Text :=
  s.take 1 ++ (if s.length ≤ 1 then [] else char '.' :: s.drop 1) ++ char 'e' :: exponentText power

/-- The power of ten of the first digit; zero for zero. -/
def leadingPower (f : Fraction) : Int :=
  if f.coefficient = 0 then 0 else (digits f.coefficient).length + f.exponent - 1

/-- The numeral of the fraction without its sign. -/
def magnitudeText (f : Fraction) : Text :=
  let s := significant (digits f.coefficient)
  let power := f.leadingPower
  if leastPositional ≤ power ∧ power ≤ greatestPositional then pointed (power + 1) s
  else scaled power s

/-- The numeral of the fraction. -/
def numeral (f : Fraction) : Text :=
  if f.negative then char '-' :: f.magnitudeText else f.magnitudeText

end Fraction

end Dialer.Text
