import Dialer.Proofs.Text.Ascii
import Dialer.Unicode.Lowercase

/-!
# Lower case within ASCII

A text may have characters beyond ASCII and yet an ASCII form in lower case, because the Kelvin
sign becomes a `k`. It is the only such character.

* `smallLetter` is what then becomes of each character (`lower_eq_map_of_isAscii`).
* `smallLetter_eq_iff` says that delimiters come from themselves alone.
* `lower_eq_iff` says that a text comes out as an ASCII text without a `k` only if the lower case of
  its letters is that.
* `lower_lower` says that such a form stays as it is.
-/

namespace Dialer.Unicode

open Text

/-- The Kelvin sign, a capital beyond ASCII whose small letter is ASCII. -/
def kelvin : CodePoint := '\u212A'

/-- The lower-case form of a character, if that is ASCII. -/
def smallLetter (c : CodePoint) : CodePoint := if c = kelvin then 'k' else c.toLower

theorem smallLetter_of_ascii {c : CodePoint} (h : c.toNat < 128) : smallLetter c = c.toLower := by
  refine if_neg ?_
  rintro rfl
  exact absurd h (by decide)

theorem smallLetter_eq_iff {c d : CodePoint} (ascii : d.toNat < 128) (h : d.isAlpha = false) :
    smallLetter c = d ↔ c = d := by
  unfold smallLetter
  split
  next e =>
    subst e
    constructor
    · rintro rfl
      exact absurd h (by decide)
    · rintro rfl
      exact absurd ascii (by decide)
  next => exact toLower_eq_iff h

theorem toLower_smallLetter (c : CodePoint) : (smallLetter c).toLower = smallLetter c := by
  unfold smallLetter
  split
  · decide
  · exact toLower_toLower c

/-! ## Capitals beyond ASCII -/

/-- Of the capitals beyond ASCII, only the Kelvin sign has an ASCII small letter. -/
theorem eq_kelvin_of_contains {run : CapitalRun} (mem : run ∈ capitalRuns) {c : CodePoint}
    (h : run.contains c.toNat = true)
    (small : (CodePoint.ofNat (c.toNat + run.offset).toNat).toNat < 128) :
    c = kelvin ∧ CodePoint.ofNat (c.toNat + run.offset).toNat = 'k' := by
  have table : ∀ run ∈ capitalRuns,
      (run.first = kelvin.toNat ∧ run.last = kelvin.toNat ∧ run.offset = -8383) ∨
      (128 ≤ run.first + run.offset ∧ run.last + run.offset < 0x110000) := by
    decide +kernel
  simp only [CapitalRun.contains, Bool.and_eq_true, decide_eq_true_eq] at h
  obtain ⟨⟨first, last⟩, -⟩ := h
  rcases table run mem with ⟨hf, hl, ho⟩ | ⟨low, high⟩
  · have sign : c.toNat = kelvin.toNat := by omega
    obtain rfl : c = kelvin := by rw [← CodePoint.ofNat_toNat c, sign, CodePoint.ofNat_toNat]
    exact ⟨rfl, by rw [ho]; decide⟩
  · rw [CodePoint.toNat_ofNat (by omega)] at small
    omega

theorem lowerChar_eq_of_isAscii {c : CodePoint} (h : isAscii (lowerChar c) = true) :
    lowerChar c = [smallLetter c] := by
  by_cases ascii : c.toNat < 0x80
  · rw [lowerChar_of_ascii ascii, smallLetter_of_ascii ascii]
  · unfold lowerChar at h ⊢
    rw [if_neg ascii] at h ⊢
    by_cases dotted : c.toNat = 0x130
    · rw [if_pos dotted] at h
      exact absurd h (by decide)
    · rw [if_neg dotted] at h ⊢
      cases found : capitalRuns.find? (·.contains c.toNat) with
      | none =>
        rw [found] at h
        simp only [isAscii, List.all_cons, List.all_nil, Bool.and_true, decide_eq_true_eq] at h
        exact absurd h ascii
      | some run =>
        simp only [found, isAscii, List.all_cons, List.all_nil, Bool.and_true,
          decide_eq_true_eq] at h ⊢
        have contained := List.find?_some found
        obtain ⟨sign, image⟩ :=
          eq_kelvin_of_contains (List.mem_of_find?_eq_some found) contained h
        rw [image, sign]
        rfl

/-! ## Texts -/

theorem lowerAfter_eq_map_of_isAscii (before : Text) {s : Text}
    (h : isAscii (lowerAfter before s) = true) : lowerAfter before s = s.map smallLetter := by
  induction s generalizing before with
  | nil => rfl
  | cons c s ih =>
    rw [lowerAfter, isAscii_append, Bool.and_eq_true] at h
    obtain ⟨head, tail⟩ := h
    have plain : c ≠ 'Σ' := by
      rintro rfl
      revert head
      rw [if_pos rfl]
      split <;> decide
    rw [if_neg plain] at head
    rw [lowerAfter, if_neg plain, lowerChar_eq_of_isAscii head, ih _ tail]
    rfl

/-- **A text with an ASCII form in lower case is lowered letter by letter.** -/
theorem lower_eq_map_of_isAscii {s : Text} (h : isAscii (lower s) = true) :
    lower s = s.map smallLetter := lowerAfter_eq_map_of_isAscii [] h

/-- Nothing beyond ASCII comes out as an ASCII text without a `k`. -/
theorem lower_eq_iff {s small : Text} (ascii : small.isAscii = true) (letter : char 'k' ∉ small) :
    lower s = small ↔ s.map CodePoint.toLower = small := by
  constructor
  · rintro rfl
    rw [lower_eq_map_of_isAscii ascii] at letter ⊢
    apply List.map_congr_left
    intro c hc
    have other : c ≠ kelvin := by
      rintro rfl
      exact letter (List.mem_map_of_mem (f := smallLetter) hc)
    exact (if_neg other).symm
  · rintro rfl
    rw [isAscii_map_toLower] at ascii
    exact lower_of_isAscii ascii

theorem lower_lower {s : Text} (h : isAscii (lower s) = true) : lower (lower s) = lower s := by
  rw [lower_of_isAscii h, lower_eq_map_of_isAscii h, List.map_map]
  exact List.map_congr_left fun c _ => toLower_smallLetter c

end Dialer.Unicode
