import Dialer.Unicode.CodeTable

/-!
# Delimiters in disguise

Some characters fall apart into text with a URI delimiter under compatibility normalisation, as
U+2100 does into `a/c` (Unicode 14). Composition never takes a delimiter away again, so a text
has a disguised delimiter exactly when one of its characters has.
-/

namespace Dialer.Unicode

/-- The characters beyond ASCII whose compatibility form holds one of `/`, `?`, `#`, `@`, `:`. -/
def disguised : CodeSet := .read "
2047-2049 2100-2101 2105-2106 2A74 FE13 FE16 FE55-FE56 FE5F FE6B FF03 FF0F FF1A FF1F-FF20"

/-- Whether the compatibility form of the character holds a URI delimiter that it does not. -/
def disguisesDelimiter (c : CodePoint) : Bool := 0x80 ≤ c.toNat && disguised.contains c

theorem disguisesDelimiter_of_ascii {c : CodePoint} (h : c.toNat < 0x80) :
    disguisesDelimiter c = false := by
  simp [disguisesDelimiter, Nat.not_le.mpr h]

end Dialer.Unicode
