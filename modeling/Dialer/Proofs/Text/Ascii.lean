import Dialer.Text.Basic
import Mathlib

/-!
# ASCII characters

* `of_ascii` lifts what holds of the first 128 code points to every ASCII character.
* Only ASCII letters change with `CodePoint.toLower`, and only into letters
  (`toLower_eq_or_isAlpha`), so that delimiters come from themselves alone (`toLower_eq_iff`).
-/

namespace Dialer.Text

/-- What holds of the first 128 code points holds of every ASCII character. -/
theorem of_ascii {p : CodePoint → Bool}
    (h : (List.range 128).all (fun n => p (CodePoint.ofNat n)) = true)
    {c : CodePoint} (hc : c.toNat < 128) : p c = true := by
  have here := List.all_eq_true.mp h c.toNat (List.mem_range.mpr hc)
  rwa [CodePoint.ofNat_toNat] at here

theorem toNat_lt_of_isAscii {s : Text} (h : s.isAscii = true) {c : CodePoint} (hc : c ∈ s) :
    c.toNat < 128 :=
  of_decide_eq_true (List.all_eq_true.mp h c hc)

/-- No surrogate is ASCII. -/
theorem any_isSurrogate_of_isAscii {s : Text} (h : s.isAscii = true) :
    s.any CodePoint.isSurrogate = false := by
  refine List.any_eq_false.mpr fun c hc surrogate => ?_
  have small := toNat_lt_of_isAscii h hc
  cases c with
  | char c => cases surrogate
  | surrogate distance =>
    simp only [CodePoint.toNat] at small
    omega

theorem isAscii_append (s t : Text) : (s ++ t).isAscii = (s.isAscii && t.isAscii) :=
  List.all_append

/-! ## Lower case -/

theorem toLower_of_not_ascii {c : CodePoint} (h : 128 ≤ c.toNat) : c.toLower = c := by
  refine if_neg fun capital => ?_
  have last : c.toNat ≤ 90 := by
    simp only [CodePoint.isUpper, Bool.and_eq_true, decide_eq_true_eq] at capital
    exact capital.2
  omega

theorem toLower_eq_or_isAlpha (c : CodePoint) :
    c.toLower = c ∨ c.isAlpha = true ∧ c.toLower.isAlpha = true := by
  rcases Nat.lt_or_ge c.toNat 128 with small | large
  · have all := of_ascii (p := fun c => c.toLower = c || (c.isAlpha && c.toLower.isAlpha))
      (by decide +kernel) small
    simpa only [Bool.or_eq_true, Bool.and_eq_true, decide_eq_true_eq] using all
  · exact Or.inl (toLower_of_not_ascii large)

/-- What is no letter comes from itself alone. -/
theorem toLower_eq_iff {c d : CodePoint} (h : d.isAlpha = false) : c.toLower = d ↔ c = d := by
  rcases toLower_eq_or_isAlpha c with same | ⟨before, after⟩
  · rw [same]
  · constructor
    · rintro rfl
      rw [h] at after
      cases after
    · rintro rfl
      rw [h] at before
      cases before

theorem toLower_toLower (c : CodePoint) : c.toLower.toLower = c.toLower := by
  rcases Nat.lt_or_ge c.toNat 128 with small | large
  · exact of_decide_eq_true
      (of_ascii (p := fun c => c.toLower.toLower = c.toLower) (by decide +kernel) small)
  · rw [toLower_of_not_ascii large, toLower_of_not_ascii large]

theorem isAlpha_toLower (c : CodePoint) : c.toLower.isAlpha = c.isAlpha := by
  rcases toLower_eq_or_isAlpha c with same | ⟨before, after⟩
  · rw [same]
  · rw [before, after]

theorem toNat_toLower_lt_iff {c : CodePoint} : c.toLower.toNat < 128 ↔ c.toNat < 128 := by
  rcases Nat.lt_or_ge c.toNat 128 with small | large
  · have all := of_ascii (p := fun c => decide (c.toLower.toNat < 128)) (by decide +kernel) small
    exact iff_of_true (of_decide_eq_true all) small
  · rw [toLower_of_not_ascii large]

/-- What no letter has is kept by lower case. -/
theorem apply_toLower {p : CodePoint → Bool} (h : ∀ c, p c = true → c.isAlpha = false)
    (c : CodePoint) :
    p c.toLower = p c := by
  rcases toLower_eq_or_isAlpha c with same | ⟨before, after⟩
  · rw [same]
  · have no {d : CodePoint} (letter : d.isAlpha = true) : p d = false := by
      rw [Bool.eq_false_iff]
      intro holds
      rw [h d holds] at letter
      cases letter
    rw [no before, no after]

/-! ## Texts up to letter case -/

theorem isAscii_map_toLower (s : Text) : isAscii (s.map CodePoint.toLower) = s.isAscii := by
  rw [isAscii, List.all_map]
  refine congrArg s.all (funext fun c => ?_)
  exact decide_eq_decide.mpr toNat_toLower_lt_iff

theorem any_of_map_toLower {p : CodePoint → Bool} {s t : Text} (h : ∀ c, p c.toLower = p c)
    (same : s.map CodePoint.toLower = t.map CodePoint.toLower) : s.any p = t.any p := by
  have lowered (r : Text) : (r.map CodePoint.toLower).any p = r.any p := by
    rw [List.any_map]
    exact congrArg r.any (funext h)
  rw [← lowered s, ← lowered t, same]

theorem mem_iff_of_map_toLower {c : CodePoint} {s t : Text} (h : c.isAlpha = false)
    (same : s.map CodePoint.toLower = t.map CodePoint.toLower) : c ∈ s ↔ c ∈ t := by
  have lowered (r : Text) : c ∈ r.map CodePoint.toLower ↔ c ∈ r := by
    rw [List.mem_map]
    constructor
    · rintro ⟨d, mem, lower⟩
      exact (toLower_eq_iff h).mp lower ▸ mem
    · intro mem
      exact ⟨c, mem, (toLower_eq_iff h).mpr rfl⟩
  rw [← lowered s, ← lowered t, same]

end Dialer.Text
