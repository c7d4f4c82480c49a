import Dialer.Text.Basic

/-!
# Decimal numerals

* `digits n` writes a natural number without leading zeros, and `value` reads digits.
* `isWritable` says which numbers are short enough to be written or read by a program.
* `value_digits` says that what is written reads back.
-/

namespace Dialer.Text

/-- The decimal digit of a value below ten. -/
def digit (n : Nat) : CodePoint := CodePoint.ofNat ('0'.toNat + n)

/-- The decimal digits of a number, without leading zeros. -/
def digits (n : Nat) : Text :=
  if n < 10 then [digit n] else digits (n / 10) ++ [digit (n % 10)]
termination_by n
decreasing_by omega

/-- The most digits that a numeral may have to be written or read. -/
def maxDigits : Nat := 4300

/-- Whether the number has no more digits than may be written. -/
def isWritable (n : Nat) : Bool := (digits n).length ≤ maxDigits

/-- The decimal numeral of an integer. -/
def numeral : Int → Text
  | .ofNat n => digits n
  | .negSucc n => char '-' :: digits (n + 1)

/-- The number that decimal digits spell. -/
def value (s : Text) : Nat :=
  s.foldl (fun n c => 10 * n + (c.toNat - '0'.toNat)) 0

theorem toNat_digit {n : Nat} (h : n < 10) : (digit n).toNat - '0'.toNat = n := by
  have all : ∀ m ∈ List.range 10, (digit m).toNat - '0'.toNat = m := by decide
  exact all n (List.mem_range.mpr h)

theorem isDigit_digit {n : Nat} (h : n < 10) : (digit n).isDigit = true := by
  have all : ∀ m ∈ List.range 10, (digit m).isDigit = true := by decide
  exact all n (List.mem_range.mpr h)

/-- A written number reads back. -/
theorem value_digits (n : Nat) : value (digits n) = n := by
  induction n using Nat.strongRecOn with
  | _ n ih =>
    rw [digits]
    split
    next h => simpa [value] using toNat_digit h
    next h =>
      have head := ih (n / 10) (by omega)
      have last := toNat_digit (n := n % 10) (by omega)
      simp only [value, List.foldl_append, List.foldl_cons, List.foldl_nil] at head ⊢
      rw [head, last]
      omega

/-- A written number has decimal digits only. -/
theorem isDigit_of_mem_digits {n : Nat} {c : CodePoint} (h : c ∈ digits n) : c.isDigit = true := by
  induction n using Nat.strongRecOn with
  | _ n ih =>
    rw [digits] at h
    split at h
    next small => simp_all [isDigit_digit]
    next large =>
      rcases List.mem_append.mp h with h | h
      · exact ih (n / 10) (by omega) h
      · simp only [List.mem_singleton] at h
        exact h ▸ isDigit_digit (by omega)

/-- A written number is not empty. -/
theorem digits_ne_nil (n : Nat) : digits n ≠ [] := by
  rw [digits]
  split <;> simp

end Dialer.Text
