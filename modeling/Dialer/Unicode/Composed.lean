import Dialer.Unicode.CombiningClass
import Dialer.Unicode.Decomposition

/-!
# The composed normal form

Text is decomposed, its marks are put into canonical order, and marks are composed with their
starter where nothing blocks them.

* `decomposed` and `composed` are the two canonical normal forms.
-/

namespace Dialer.Unicode

/-! ## Hangul syllables -/

/-- The parts of a Hangul syllable, which arithmetic gives. -/
def hangulParts (c : CodePoint) : Option Text :=
  let n := c.toNat
  if 0xAC00 ≤ n && n < 0xAC00 + 11172 then
    let index := n - 0xAC00
    let lead := CodePoint.ofNat (0x1100 + index / 588)
    let vowel := CodePoint.ofNat (0x1161 + index % 588 / 28)
    if index % 28 = 0 then some [lead, vowel]
    else some [lead, vowel, CodePoint.ofNat (0x11A7 + index % 28)]
  else none

/-- The Hangul syllable of two parts: a lead and a vowel, or a syllable and its trail. -/
def hangulPair (a b : CodePoint) : Option CodePoint :=
  let m := a.toNat
  let n := b.toNat
  if 0x1100 ≤ m && m < 0x1113 && 0x1161 ≤ n && n < 0x1176 then
    some (CodePoint.ofNat (0xAC00 + ((m - 0x1100) * 21 + (n - 0x1161)) * 28))
  else if 0xAC00 ≤ m && m < 0xAC00 + 11172 && (m - 0xAC00) % 28 = 0
      && 0x11A7 < n && n < 0x11C3 then
    some (CodePoint.ofNat (m + (n - 0x11A7)))
  else none

/-! ## Decomposition -/

/-- The full decomposition of a character. Three steps reach the end of every chain. -/
def decompose (c : CodePoint) : Text :=
  match hangulParts c with
  | some parts => parts
  | none => ((decompositionStep c).flatMap decompositionStep).flatMap decompositionStep

/-- Puts a character before a text in canonical order, behind the marks of lower class. -/
def insertMark (c : CodePoint) : Text → Text
  | [] => [c]
  | d :: s =>
    if 0 < combiningClass d && combiningClass d < combiningClass c then d :: insertMark c s
    else c :: d :: s

/-- The canonically decomposed form. -/
def decomposed (s : Text) : Text := (s.flatMap decompose).foldr insertMark []

/-! ## Composition -/

/-- The characters that two others compose. -/
def compositions : Array (Span Text) :=
  decompositions.spans.filter fun span =>
    span.value.length == 2 && !excludedFromComposition.contains (CodePoint.ofNat span.first)

/-- The character that two others compose. -/
def compose (a b : CodePoint) : Option CodePoint :=
  match hangulPair a b with
  | some c => some c
  | none =>
    if b.toNat < 0x300 then none
    else (compositions.find? (·.value == [a, b])).map fun span => CodePoint.ofNat span.first

/-- Composes a starter with the marks that follow it. `held`, last first, are the marks passed
over so far; a mark is blocked by a held one of no lower class. -/
def composeFrom (starter : CodePoint) (held : Text) : Text → Text
  | [] => starter :: held.reverse
  | c :: s =>
    let free := held.head?.all fun d => combiningClass d < combiningClass c
    match if free then compose starter c else none with
    | some composite => composeFrom composite held s
    | none =>
      if combiningClass c = 0 then starter :: held.reverse ++ composeFrom c [] s
      else composeFrom starter (c :: held) s

/-- Composes a text in canonical order. -/
def composeAll : Text → Text
  | [] => []
  | c :: s => if combiningClass c = 0 then composeFrom c [] s else c :: composeAll s

/-- The canonically composed form. -/
def composed (s : Text) : Text := composeAll (decomposed s)

end Dialer.Unicode
