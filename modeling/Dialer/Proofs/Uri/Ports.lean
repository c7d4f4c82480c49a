import Dialer.Endpoint
import Mathlib

/-!
# Ports that can be written

How long numerals are, and which ports are short enough to be written.

* `Text.isWritable_iff` says for which numbers the numeral is within the limit.
* `canWritePort_of_le` covers all ports that there are, and `canWritePort_effectivePort` those that
  stand in for a missing one.
-/

namespace Dialer

namespace Text

/-! ## The length of numerals -/

theorem lt_pow_length_digits (n : Nat) : n < 10 ^ (digits n).length := by
  induction n using Nat.strongRecOn with
  | _ n ih =>
    rw [digits]
    split
    next small => simpa using small
    next large =>
      have head := ih (n / 10) (by omega)
      rw [List.length_append, List.length_singleton, pow_succ]
      omega

theorem length_digits_le {k n : Nat} (positive : 0 < k) (h : n < 10 ^ k) :
    (digits n).length ≤ k := by
  induction k generalizing n with
  | zero => exact absurd positive (Nat.lt_irrefl 0)
  | succ k ih =>
    rw [digits]
    split
    next => simp
    next large =>
      have rest : n / 10 < 10 ^ k := Nat.div_lt_of_lt_mul (by rw [← pow_succ']; exact h)
      have more : 0 < k := by
        by_contra none
        obtain rfl : k = 0 := by omega
        exact large h
      simpa using ih more rest

theorem isWritable_iff {n : Nat} : isWritable n = true ↔ n < 10 ^ maxDigits := by
  rw [isWritable, decide_eq_true_iff]
  constructor
  · intro few
    have grows : 10 ^ (digits n).length ≤ 10 ^ maxDigits := Nat.pow_le_pow_right (by decide) few
    exact (lt_pow_length_digits n).trans_le grows
  · exact fun small => length_digits_le (by decide) small

end Text

/-! ## Ports -/

theorem canWritePort_of_le {n : Int} (h : n ≤ 65535) : canWritePort (some n) = true := by
  cases n with
  | ofNat n =>
    have small : n ≤ 65535 := Int.ofNat_le.mp h
    have few : (Text.digits n).length ≤ 5 := Text.length_digits_le (by decide) (by omega)
    exact decide_eq_true (few.trans (by decide))
  | negSucc n => rfl

theorem canWritePort_effectivePort {port : Option Int} (h : canWritePort port = true)
    (secure : Bool) : canWritePort (some (effectivePort port secure)) = true := by
  have default : canWritePort (some (defaultPort secure)) = true :=
    canWritePort_of_le (by cases secure <;> decide)
  rcases port with _ | ⟨n⟩ | n
  · exact default
  · exact h
  · exact default

/-- A URL whose port can be written prints as its text. -/
theorem Url.print_of_writable {u : Url} (writable : canWritePort u.port = true) :
    u.print = .ok u.toText := by
  rw [print, withPort, if_pos writable, ite_self]

end Dialer
