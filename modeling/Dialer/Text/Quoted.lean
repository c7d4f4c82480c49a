import Dialer.Text.Hex
import Dialer.Unicode.Printable

/-!
# Quoted text

How a text stands in a message: between single quotes, or between double quotes when only these
do not occur in it, with a backslash before the quote and the backslash, and with escapes for
characters that cannot be printed.

* `quoted` quotes a text.
* `quotedBytes` quotes bytes, after the letter `b`; all but printable ASCII is escaped.
-/

namespace Dialer.Text

/-- The quotation mark for a text. -/
def quoteMark (s : Text) : CodePoint :=
  if s.contains '\'' && !s.contains '"' then '"' else '\''

/-- The escape that quoted texts and quoted bytes share. -/
def commonEscape? (mark c : CodePoint) : Option Text :=
  if c = mark || c = '\\' then some [char '\\', c]
  else if c = '\n' then some [char '\\', char 'n']
  else if c = '\r' then some [char '\\', char 'r']
  else if c = '\t' then some [char '\\', char 't']
  else none

/-- A character inside quotes. -/
def escaped (mark c : CodePoint) : Text :=
  match commonEscape? mark c with
  | some escape => escape
  | none =>
    if Unicode.isPrintable c then [c]
    else if c.toNat < 0x100 then char '\\' :: char 'x' :: hexLower 2 c.toNat
    else if c.toNat < 0x10000 then char '\\' :: char 'u' :: hexLower 4 c.toNat
    else char '\\' :: char 'U' :: hexLower 8 c.toNat

/-- The quoted form of a text. -/
def quoted (s : Text) : Text :=
  let mark := quoteMark s
  mark :: s.flatMap (escaped mark) ++ [mark]

/-- A byte inside quotes. -/
def escapedByte (mark : CodePoint) (b : UInt8) : Text :=
  let c := CodePoint.ofNat b.toNat
  match commonEscape? mark c with
  | some escape => escape
  | none =>
    if 0x20 ≤ b.toNat && b.toNat < 0x7F then [c] else char '\\' :: char 'x' :: hexLower 2 b.toNat

/-- The quoted form of bytes. -/
def quotedBytes (bytes : List UInt8) : Text :=
  let mark := quoteMark (bytes.map fun b => CodePoint.ofNat b.toNat)
  char 'b' :: mark :: bytes.flatMap (escapedByte mark) ++ [mark]

end Dialer.Text
