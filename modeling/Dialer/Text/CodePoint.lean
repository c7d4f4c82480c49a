/-!
# Code points

What a text is made of. A text that was decoded leniently, such as an argument of a program, may
hold surrogates that stand for bytes, which no strict encoding writes.

* `CodePoint` is a character or a surrogate, and `CodePoint.toNat` and `CodePoint.ofNat` go by its
  number.
* The classes of ASCII characters and lower case are those of characters. No surrogate is in a class
  or changes.
-/

namespace Dialer

/-- A code point: a character or one of the surrogates. -/
inductive CodePoint
  | char (c : Char)
  /-- The surrogate at this distance from the first, U+D800. -/
  | surrogate (distance : Fin 0x800)
  deriving DecidableEq

export CodePoint (char)

namespace CodePoint

instance : Coe Char CodePoint := ⟨char⟩

/-- The number of the code point. -/
def toNat : CodePoint → Nat
  | char c => c.toNat
  | surrogate distance => 0xD800 + distance

/-- The code point of a number, and that of zero if there is none. -/
def ofNat (n : Nat) : CodePoint :=
  if surrogates : 0xD800 ≤ n ∧ n < 0xE000 then surrogate ⟨n - 0xD800, by omega⟩
  else char (Char.ofNat n)

instance : LE CodePoint := ⟨fun c d => c.toNat ≤ d.toNat⟩

instance (c d : CodePoint) : Decidable (c ≤ d) := inferInstanceAs (Decidable (c.toNat ≤ d.toNat))

/-- Whether the code point is a surrogate. -/
def isSurrogate : CodePoint → Bool
  | char _ => false
  | surrogate _ => true

/-! ## Classes of ASCII characters -/

def isUpper (c : CodePoint) : Bool := 'A' ≤ c && c ≤ 'Z'

def isLower (c : CodePoint) : Bool := 'a' ≤ c && c ≤ 'z'

def isAlpha (c : CodePoint) : Bool := c.isUpper || c.isLower

def isDigit (c : CodePoint) : Bool := '0' ≤ c && c ≤ '9'

def isAlphanum (c : CodePoint) : Bool := c.isAlpha || c.isDigit

/-- The lower-case letter of an upper-case one. All else is kept. -/
def toLower (c : CodePoint) : CodePoint := if c.isUpper then ofNat (c.toNat + 32) else c

/-! ## Numbers -/

theorem le_def {c d : CodePoint} : c ≤ d ↔ c.toNat ≤ d.toNat := Iff.rfl

theorem le_trans {c d e : CodePoint} (h : c ≤ d) (h' : d ≤ e) : c ≤ e := Nat.le_trans h h'

theorem toNat_lt (c : CodePoint) : c.toNat < 0x110000 := by
  cases c with
  | char c =>
    have valid : c.toNat.isValidChar := c.valid
    rcases valid with before | ⟨-, after⟩ <;> simp only [toNat] <;> omega
  | surrogate distance =>
    simp only [toNat]
    omega

theorem ofNat_toNat (c : CodePoint) : ofNat c.toNat = c := by
  cases c with
  | char c =>
    have outside : ¬(0xD800 ≤ c.toNat ∧ c.toNat < 0xE000) := by
      have valid : c.toNat.isValidChar := c.valid
      rcases valid with before | ⟨after, -⟩ <;> omega
    rw [toNat, ofNat, dif_neg outside, Char.ofNat_toNat]
  | surrogate distance =>
    have inside : 0xD800 ≤ 0xD800 + distance.val ∧ 0xD800 + distance.val < 0xE000 := by omega
    rw [toNat, ofNat, dif_pos inside]
    simp

theorem toNat_ofNat {n : Nat} (h : n < 0x110000) : (ofNat n).toNat = n := by
  unfold ofNat
  split
  next surrogates => exact Nat.add_sub_cancel' surrogates.1
  next outside =>
    have valid : n.isValidChar := by
      rcases Nat.lt_or_ge n 0xD800 with before | after
      · exact Or.inl before
      · exact Or.inr ⟨by omega, h⟩
    rw [toNat, Char.ofNat, dif_pos valid]
    rfl

end CodePoint

end Dialer
