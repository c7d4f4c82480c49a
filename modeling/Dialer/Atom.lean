import Dialer.Text.Decimal
import Dialer.Text.Quoted

/-!
# Atoms

The values that platform errors and socket addresses are made of, and how they are shown.
-/

namespace Dialer

/-- A value inside an error or an address. -/
inductive Atom
  | none
  | number (n : Int)
  | text (s : Text)
  deriving DecidableEq

namespace Atom

/-- The atom as it stands in a sentence. -/
def shown : Atom → Text
  | none => "None".toText
  | number n => Text.numeral n
  | text s => s

/-- The atom as it stands in a list. -/
def quoted : Atom → Text
  | text s => Text.quoted s
  | a => a.shown

/-- Whether the atom says nothing. -/
def isBlank : Atom → Bool
  | none => true
  | number n => n = 0
  | text s => s.isEmpty

/-- The atom, unless it is missing. -/
def present? : Atom → Option Atom
  | none => Option.none
  | a => some a

/-- Quoted atoms with commas between them. -/
def commaList : List Atom → Text
  | [] => []
  | [a] => a.quoted
  | a :: as => a.quoted ++ ", ".toText ++ commaList as

/-- Atoms as a tuple, in which a single one is followed by a comma. -/
def tuple : List Atom → Text
  | [a] => char '(' :: a.quoted ++ ",)".toText
  | as => char '(' :: commaList as ++ [char ')']

end Atom

end Dialer
