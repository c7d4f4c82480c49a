import Dialer.Text.Hex

/-!
# Tables over code points

A property of characters is a list of spans of code points, in ascending order, each with the
value that its members share.

* `CodeTable.find?` looks a character up by halving.
* `CodeTable.read` reads a table from text: words `first-last:value`, in hexadecimal, where
  `-last` is left out of a span of one code point and `:value` of a mere set.
-/

namespace Dialer.Unicode

open Text

/-- Consecutive code points that share a value. -/
structure Span (α : Type) where
  first : Nat
  last : Nat
  value : α

/-- Spans in ascending order. -/
structure CodeTable (α : Type) where
  spans : Array (Span α)

/-- A set of code points. -/
abbrev CodeSet := CodeTable Unit

namespace CodeTable

variable {α : Type}

/-- The span that holds code point `n`, sought from position `low` up to position `high`. -/
def search (spans : Array (Span α)) (n low high : Nat) : Option (Span α) :=
  if low < high then
    let mid := (low + high) / 2
    match spans[mid]? with
    | none => none
    | some span =>
      if n < span.first then search spans n low mid
      else if span.last < n then search spans n (mid + 1) high
      else some span
  else none
termination_by high - low

/-- The span that holds the character. -/
def find? (table : CodeTable α) (c : CodePoint) : Option (Span α) :=
  search table.spans c.toNat 0 table.spans.size

/-- The value of the character. -/
def get? (table : CodeTable α) (c : CodePoint) : Option α :=
  (table.find? c).map Span.value

/-- Whether a span holds the character. -/
def contains (table : CodeTable α) (c : CodePoint) : Bool :=
  (table.find? c).isSome

/-! ## Reading a table -/

/-- The words of a text, which blanks and line ends separate. -/
def words (s : Text) : List Text :=
  let pieces := s.foldr (fun (c : CodePoint) pieces =>
    if c = ' ' || c = '\n' then [] :: pieces
    else match pieces with
      | [] => [[c]]
      | piece :: pieces => (c :: piece) :: pieces) []
  pieces.filter fun piece => !piece.isEmpty

/-- The span that a word describes, its value read by `valueOf`. -/
def readSpan (valueOf : Text → α) (word : Text) : Span α :=
  let (range, value) := cutFirst ':' word
  let (first, last) := cutFirst '-' range
  { first := hexValue first
    last := hexValue (last.getD first)
    value := valueOf (value.getD []) }

/-- The table that a text describes. -/
def read (valueOf : Text → α) (s : String) : CodeTable α :=
  ⟨((words s.toText).map (readSpan valueOf)).toArray⟩

end CodeTable

/-- The set that a text describes. -/
def CodeSet.read (s : String) : CodeSet := CodeTable.read (fun _ => ()) s

end Dialer.Unicode
