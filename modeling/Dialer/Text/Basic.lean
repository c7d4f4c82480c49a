import Dialer.Text.CodePoint

/-!
# Text

Text is a list of code points, the form on which every rule of this library is stated; strings
occur only as literals and at the outer edge.

* `cutFirst c s` and `cutLast c s` cut `s` at its first and its last `c`. The two pieces and the
  cut make up the text again (`cutFirst_join`, `cutLast_join`).
* `splitOn c s` cuts at every `c`.
* `trim p s` drops the characters with `p` from both ends.
-/

namespace Dialer

/-- Text, code point by code point. -/
abbrev Text := List CodePoint

end Dialer

/-- The text of a string. -/
def String.toText (s : String) : Dialer.Text := s.toList.map .char

namespace Dialer

instance : Coe String Text := ⟨String.toText⟩

namespace Text

/-- Whether all of the text is ASCII. -/
def isAscii (s : Text) : Bool := s.all fun c => c.toNat < 128

/-! ## Cutting at a character -/

/-- The text before the first `c`, and the text after it if there is a `c`. -/
def cutFirst (c : CodePoint) : Text → Text × Option Text
  | [] => ([], none)
  | d :: s =>
    if d = c then ([], some s)
    else
      let (before, after) := cutFirst c s
      (d :: before, after)

/-- The text before the last `c` if there is a `c`, and the text after it. -/
def cutLast (c : CodePoint) : Text → Option Text × Text
  | [] => (none, [])
  | d :: s =>
    match cutLast c s with
    | (some before, after) => (some (d :: before), after)
    | (none, after) => if d = c then (some [], after) else (none, d :: after)

/-- The pieces of the text between the `c`s; one more than there are `c`s. -/
def splitOn (c : CodePoint) : Text → List Text
  | [] => [[]]
  | d :: s =>
    if d = c then [] :: splitOn c s
    else
      match splitOn c s with
      | [] => [[d]]
      | piece :: pieces => (d :: piece) :: pieces

/-- The text without the characters with `p` at its two ends. -/
def trim (p : CodePoint → Bool) (s : Text) : Text :=
  ((s.dropWhile p).reverse.dropWhile p).reverse

/-- What two pieces cut at `c` make up. -/
def joinFirst (c : CodePoint) : Text × Option Text → Text
  | (before, none) => before
  | (before, some after) => before ++ c :: after

/-- What two pieces cut at the last `c` make up. -/
def joinLast (c : CodePoint) : Option Text × Text → Text
  | (none, after) => after
  | (some before, after) => before ++ c :: after

theorem cutFirst_join (c : CodePoint) (s : Text) : joinFirst c (cutFirst c s) = s := by
  induction s with
  | nil => rfl
  | cons d s ih =>
    by_cases h : d = c
    · simp [cutFirst, joinFirst, h]
    · generalize hp : cutFirst c s = p at ih
      obtain ⟨before, after⟩ := p
      cases after <;> simp_all [cutFirst, joinFirst]

theorem cutLast_join (c : CodePoint) (s : Text) : joinLast c (cutLast c s) = s := by
  induction s with
  | nil => rfl
  | cons d s ih =>
    generalize hp : cutLast c s = p at ih
    obtain ⟨before, after⟩ := p
    by_cases h : d = c <;> cases before <;> simp_all [cutLast, joinLast]

theorem splitOn_ne_nil (c : CodePoint) (s : Text) : splitOn c s ≠ [] := by
  cases s with
  | nil => simp [splitOn]
  | cons d s =>
    simp only [splitOn]
    split
    · simp
    · split <;> simp

/-- No `c` precedes the first cut. -/
theorem not_mem_cutFirst (c : CodePoint) (s : Text) : c ∉ (cutFirst c s).1 := by
  induction s with
  | nil => simp [cutFirst]
  | cons d s ih =>
    by_cases h : d = c
    · simp [cutFirst, h]
    · simp [cutFirst, h, ih, Ne.symm h]

/-- No `c` follows the last cut. -/
theorem not_mem_cutLast (c : CodePoint) (s : Text) : c ∉ (cutLast c s).2 := by
  induction s with
  | nil => simp [cutLast]
  | cons d s ih =>
    generalize hp : cutLast c s = p at ih
    obtain ⟨before, after⟩ := p
    by_cases h : d = c <;> cases before <;> simp_all [cutLast, eq_comm (a := c)]

end Text

end Dialer
