import Dialer.Text.Basic

/-!
# Punycode

Bootstring as IDNA uses it (RFC 3492): the ASCII characters of a label come first, and numbers in
base 36 then say where each other character goes.

* `encode` writes a label.
* `decode` reads one, and is `none` when a number is cut short, holds a character that is no
  digit, or leads beyond the last code point.

Each loop has a measure of its own: the quotient that shrinks, or the input that is left.
-/

namespace Dialer.Idna.Punycode

/-! ## Digits and thresholds -/

/-- The digit of a value below 36: `a` to `z`, then `0` to `9`. -/
def digitChar (d : Nat) : CodePoint :=
  if d < 26 then CodePoint.ofNat ('a'.toNat + d) else CodePoint.ofNat ('0'.toNat + (d - 26))

/-- The value of a digit, whose letters may have either case. -/
def digitValue (c : CodePoint) : Option Nat :=
  if 'a' ≤ c && c ≤ 'z' then some (c.toNat - 'a'.toNat)
  else if 'A' ≤ c && c ≤ 'Z' then some (c.toNat - 'A'.toNat)
  else if c.isDigit then some (c.toNat - '0'.toNat + 26)
  else none

/-- The threshold of the digit at place `k`, counted from zero. -/
def threshold (k bias : Nat) : Nat := min 26 (max 1 (36 * (k + 1) - bias))

theorem threshold_pos (k bias : Nat) : 1 ≤ threshold k bias := by
  unfold threshold
  omega

theorem threshold_le (k bias : Nat) : threshold k bias ≤ 26 := by
  unfold threshold
  omega

/-- The bias that a scaled difference leads to. -/
def settle (delta : Nat) : Nat :=
  if 455 < delta then 36 + settle (delta / 35) else 36 * delta / (delta + 38)
termination_by delta
decreasing_by omega

/-- The bias after a difference, with `count` characters in place. -/
def adapt (delta count : Nat) (first : Bool) : Nat :=
  let scaled := if first then delta / 700 else delta / 2
  settle (scaled + scaled / count)

/-! ## Writing -/

/-- The digits of a number from place `k` on. -/
def encodeNumber (bias k q : Nat) : Text :=
  let t := threshold k bias
  if q < t then [digitChar q]
  else digitChar (t + (q - t) % (36 - t)) :: encodeNumber bias (k + 1) ((q - t) / (36 - t))
termination_by q
decreasing_by
  have := threshold_pos k bias
  have := threshold_le k bias
  exact Nat.lt_of_le_of_lt (Nat.div_le_self _ _) (by omega)

/-- Where the writer stands: the difference so far, the bias, and the characters in place. -/
structure Writer where
  delta : Nat
  bias : Nat
  placed : Nat
  first : Bool
  output : Text

/-- Passes a label once and writes a number for each occurrence of code point `n`. -/
def Writer.pass (n : Nat) (w : Writer) : Text → Writer
  | [] => { w with delta := w.delta + 1 }
  | c :: s =>
    let w :=
      if c.toNat < n then { w with delta := w.delta + 1 }
      else if c.toNat = n then
        { delta := 0
          bias := adapt w.delta (w.placed + 1) w.first
          placed := w.placed + 1
          first := false
          output := w.output ++ encodeNumber w.bias 0 w.delta }
      else w
    w.pass n s

/-- Writes the characters with the given code points, which ascend from `n`. -/
def Writer.run (label : Text) (w : Writer) (n : Nat) : List Nat → Writer
  | [] => w
  | m :: later =>
    let skipped := { w with delta := w.delta + (m - n) * (w.placed + 1) }
    (skipped.pass m label).run label (m + 1) later

/-- Adds a number to an ascending list that does not hold it yet. -/
def insertNew (n : Nat) : List Nat → List Nat
  | [] => [n]
  | m :: later =>
    if n < m then n :: m :: later else if n = m then m :: later else m :: insertNew n later

/-- The code points beyond ASCII of a label, in ascending order, each once. -/
def beyondAscii (label : Text) : List Nat :=
  (label.filter fun c => 128 ≤ c.toNat).foldr (fun c => insertNew c.toNat) []

/-- The encoded form of a label. -/
def encode (label : Text) : Text :=
  let basic := label.filter fun c => c.toNat < 128
  let start : Writer :=
    { delta := 0, bias := 72, placed := basic.length, first := true, output := [] }
  let numbers := (start.run label 128 (beyondAscii label)).output
  if basic.isEmpty then numbers else basic ++ char '-' :: numbers

/-! ## Reading -/

/-- Where the reader stands: the text so far, the code point and position reached, the bias, and
of a number begun its value, the weight of its next digit and its places. -/
structure Reader where
  output : List Nat
  code : Nat
  position : Nat
  bias : Nat
  first : Bool
  number : Nat
  weight : Nat
  places : Nat

/-- Places a character once its number is complete. -/
def Reader.place (r : Reader) (delta : Nat) : Option Reader :=
  let size := r.output.length + 1
  let reached := r.position + delta
  let code := r.code + reached / size
  if 0x10FFFF < code then none
  else
    some
      { output := r.output.insertIdx (reached % size) code
        code := code
        position := reached % size + 1
        bias := adapt delta size r.first
        first := false
        number := 0
        weight := 1
        places := 0 }

/-- Reads the digits that are left. -/
def Reader.run (r : Reader) : Text → Option (List Nat)
  | [] => if r.places = 0 then some r.output else none
  | c :: s =>
    match digitValue c with
    | none => none
    | some d =>
      let t := threshold r.places r.bias
      let number := r.number + d * r.weight
      if d < t then
        match r.place number with
        | none => none
        | some next => next.run s
      else
        Reader.run { r with number, weight := r.weight * (36 - t), places := r.places + 1 } s

/-- The code point of a number that is one. -/
def codePoint? (n : Nat) : Option CodePoint :=
  if n < 0x110000 then some (CodePoint.ofNat n) else none

/-- The label that an encoded text stands for. -/
def decode (s : Text) : Option Text :=
  let (basic, digits) := Text.cutLast '-' s
  let start : Reader :=
    { output := (basic.getD []).map CodePoint.toNat
      code := 128
      position := 0
      bias := 72
      first := true
      number := 0
      weight := 1
      places := 0 }
  match start.run digits with
  | none => none
  | some codes => codes.mapM codePoint?

end Dialer.Idna.Punycode
