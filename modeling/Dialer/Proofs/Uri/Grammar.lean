import Dialer.Uri.Url
import Mathlib

/-!
# The grammar of URIs

The rules of RFC 3986, appendix A, as languages over characters, and the parts into which a
derivation by the rule `uri` takes a text.

* `uri` is the language of all URIs. A text is in it exactly if a `Derivation` derives it
  (`mem_uri_iff`).
* `Derivation.url` is the URL made of the parts of a derivation. `Derivation.PortFits` bounds its
  port, on which the grammar puts no bound.
-/

namespace Dialer.Uri.Grammar

open scoped Computability

/-! ## Building blocks -/

/-- One character with `p`. -/
def one (p : CodePoint → Bool) : Language CodePoint := {s | ∃ c, p c = true ∧ s = [c]}

/-- One character of a range. -/
def range (first last : CodePoint) : Language CodePoint := one fun c => first ≤ c && c ≤ last

/-- One of the characters of a string. -/
def oneOf (marks : String) : Language CodePoint := one marks.toText.contains

/-- The character itself. -/
def mark (c : CodePoint) : Language CodePoint := one (· = c)

/-- A text of the language or none. -/
def optional (l : Language CodePoint) : Language CodePoint := 1 + l

/-- One or more texts of the language in a row. -/
def many (l : Language CodePoint) : Language CodePoint := l * l∗

/-! ## Characters -/

def alpha : Language CodePoint := range 'A' 'Z' + range 'a' 'z'

def digit : Language CodePoint := range '0' '9'

def hexDigit : Language CodePoint := digit + range 'A' 'F' + range 'a' 'f'

def unreserved : Language CodePoint := alpha + digit + oneOf "-._~"

def subDelims : Language CodePoint := oneOf "!$&'()*+,;="

def pctEncoded : Language CodePoint := mark '%' * hexDigit * hexDigit

def pchar : Language CodePoint := unreserved + pctEncoded + subDelims + oneOf ":@"

/-! ## Hosts -/

def decOctet : Language CodePoint :=
  digit + range '1' '9' * digit + mark '1' * digit * digit + mark '2' * range '0' '4' * digit
    + mark '2' * mark '5' * range '0' '5'

def ipv4Address : Language CodePoint :=
  decOctet * mark '.' * decOctet * mark '.' * decOctet * mark '.' * decOctet

/-- The rule `h16`, from one to four digits. -/
def h16 : Language CodePoint := hexDigit * optional hexDigit ^ 3

def ls32 : Language CodePoint := h16 * mark ':' * h16 + ipv4Address

/-- A group before a further one. -/
def group : Language CodePoint := h16 * mark ':'

/-- The gap for groups of zeros. -/
def gap : Language CodePoint := mark ':' * mark ':'

/-- At most `n + 1` groups before a gap. -/
def groupsBefore (n : Nat) : Language CodePoint := optional (optional group ^ n * h16)

def ipv6Address : Language CodePoint :=
  group ^ 6 * ls32 + gap * group ^ 5 * ls32 + groupsBefore 0 * gap * group ^ 4 * ls32
    + groupsBefore 1 * gap * group ^ 3 * ls32 + groupsBefore 2 * gap * group ^ 2 * ls32
    + groupsBefore 3 * gap * group * ls32 + groupsBefore 4 * gap * ls32
    + groupsBefore 5 * gap * h16 + groupsBefore 6 * gap

def ipvFuture : Language CodePoint :=
  oneOf "vV" * many hexDigit * mark '.' * many (unreserved + subDelims + mark ':')

def ipLiteral : Language CodePoint := mark '[' * (ipv6Address + ipvFuture) * mark ']'

def regName : Language CodePoint := (unreserved + pctEncoded + subDelims)∗

def host : Language CodePoint := ipLiteral + ipv4Address + regName

/-! ## Components -/

def scheme : Language CodePoint := alpha * (alpha + digit + oneOf "+-.")∗

def userinfo : Language CodePoint := (unreserved + pctEncoded + subDelims + mark ':')∗

def port : Language CodePoint := digit∗

def authority : Language CodePoint :=
  optional (userinfo * mark '@') * host * optional (mark ':' * port)

def segment : Language CodePoint := pchar∗

def segmentNz : Language CodePoint := many pchar

def pathAbempty : Language CodePoint := (mark '/' * segment)∗

def pathAbsolute : Language CodePoint := mark '/' * optional (segmentNz * (mark '/' * segment)∗)

def pathRootless : Language CodePoint := segmentNz * (mark '/' * segment)∗

def pathEmpty : Language CodePoint := 1

def query : Language CodePoint := (pchar + oneOf "/?")∗

def fragment : Language CodePoint := (pchar + oneOf "/?")∗

def hierPart : Language CodePoint :=
  mark '/' * mark '/' * authority * pathAbempty + pathAbsolute + pathRootless + pathEmpty

def uri : Language CodePoint :=
  scheme * mark ':' * hierPart * optional (mark '?' * query) * optional (mark '#' * fragment)

/-! ## Derivations -/

/-- The parts of a text derived by the rule `authority`. -/
structure AuthorityDerivation where
  userInfo : Option Text
  host : Text
  port : Option Text

/-- The text that the parts make up. -/
def AuthorityDerivation.text (a : AuthorityDerivation) : Text :=
  a.userInfo.elim [] (· ++ [char '@']) ++ a.host ++ a.port.elim [] (char ':' :: ·)

/-- Each part follows its rule. -/
structure AuthorityDerivation.Valid (a : AuthorityDerivation) : Prop where
  userInfo : ∀ u ∈ a.userInfo, u ∈ userinfo
  host : a.host ∈ Grammar.host
  port : ∀ p ∈ a.port, p ∈ Grammar.port

/-- The parts of a text derived by the rule `uri`. -/
structure Derivation where
  scheme : Text
  authority : Option AuthorityDerivation
  path : Text
  query : Option Text
  fragment : Option Text

/-- The rule for a path, which may begin with two slashes only after an authority. -/
def pathRule : Option AuthorityDerivation → Language CodePoint
  | some _ => pathAbempty
  | none => pathAbsolute + pathRootless + pathEmpty

namespace Derivation

/-- What follows the scheme and its colon, up to the query. -/
def hierText (d : Derivation) : Text :=
  d.authority.elim [] (fun a => char '/' :: char '/' :: a.text) ++ d.path

/-- The text that the parts make up. -/
def text (d : Derivation) : Text :=
  d.scheme ++ char ':' ::
    (d.hierText ++ d.query.elim [] (char '?' :: ·) ++ d.fragment.elim [] (char '#' :: ·))

/-- Each part follows its rule. -/
structure Valid (d : Derivation) : Prop where
  scheme : d.scheme ∈ Grammar.scheme
  authority : ∀ a ∈ d.authority, a.Valid
  path : d.path ∈ pathRule d.authority
  query : ∀ q ∈ d.query, q ∈ Grammar.query
  fragment : ∀ f ∈ d.fragment, f ∈ Grammar.fragment

/-- The derivation is one of the text. -/
def Derives (d : Derivation) (s : Text) : Prop := d.Valid ∧ d.text = s

end Derivation

/-! ## What a derivation stands for -/

/-- The number that decimal digits stand for. -/
def decimal (digits : Text) : Nat :=
  Nat.ofDigits 10 (digits.map fun c => c.toNat - '0'.toNat).reverse

/-- The registered name in lower case up to its first escape. -/
def loweredName (name : Text) : Text :=
  (name.takeWhile (· ≠ char '%')).map CodePoint.toLower ++ name.dropWhile (· ≠ char '%')

/-- The host, unless its name is empty. -/
def AuthorityDerivation.hostName (a : AuthorityDerivation) : Option Text :=
  if a.host = [] then none else some (loweredName a.host)

/-- The port, unless it is missing or empty. -/
def AuthorityDerivation.portNumber (a : AuthorityDerivation) : Option Nat :=
  match a.port with
  | none | some [] => none
  | some digits => some (decimal digits)

/-- The port, where there is one, has at most 4300 digits and does not exceed 65535. -/
def Derivation.PortFits (d : Derivation) : Prop :=
  ∀ a ∈ d.authority, ∀ digits ∈ a.port, digits.length ≤ 4300 ∧ decimal digits ≤ 65535

/-- The URL made of the parts. -/
def Derivation.url (d : Derivation) : Url where
  scheme := some (d.scheme.map CodePoint.toLower)
  userInfo := d.authority.bind (·.userInfo)
  host := d.authority.bind (·.hostName)
  port := (d.authority.bind (·.portNumber)).map Int.ofNat
  path := some d.path
  query := d.query

/-! ## Derivations and the language -/

variable {l : Language CodePoint} {c : CodePoint} {s : Text}

theorem mem_one {p : CodePoint → Bool} : s ∈ one p ↔ ∃ c, p c = true ∧ s = [c] := Iff.rfl

theorem mem_mark : s ∈ mark c ↔ s = [c] := by
  constructor
  · rintro ⟨d, hd, rfl⟩
    rw [of_decide_eq_true hd]
  · rintro rfl
    exact ⟨c, decide_eq_true rfl, rfl⟩

theorem mem_mark_mul : s ∈ mark c * l ↔ ∃ t ∈ l, s = c :: t := by
  rw [Language.mem_mul]
  constructor
  · rintro ⟨a, ha, t, ht, rfl⟩
    exact ⟨t, ht, by rw [mem_mark.mp ha]; rfl⟩
  · rintro ⟨t, ht, rfl⟩
    exact ⟨[c], mem_mark.mpr rfl, t, ht, rfl⟩

theorem mem_mul_mark : s ∈ l * mark c ↔ ∃ t ∈ l, s = t ++ [c] := by
  rw [Language.mem_mul]
  constructor
  · rintro ⟨t, ht, a, ha, rfl⟩
    exact ⟨t, ht, by rw [mem_mark.mp ha]⟩
  · rintro ⟨t, ht, rfl⟩
    exact ⟨t, ht, [c], mem_mark.mpr rfl, rfl⟩

theorem mem_optional {l : Language CodePoint} : s ∈ optional l ↔ s = [] ∨ s ∈ l := Iff.rfl

/-- An optional part after a mark. -/
theorem mem_optional_mark_mul :
    s ∈ optional (mark c * l) ↔ ∃ o : Option Text, (∀ t ∈ o, t ∈ l) ∧ s = o.elim [] (c :: ·) := by
  rw [mem_optional, mem_mark_mul]
  constructor
  · rintro (rfl | ⟨t, ht, rfl⟩)
    · exact ⟨none, by simp, rfl⟩
    · exact ⟨some t, by simpa using ht, rfl⟩
  · rintro ⟨_ | t, ht, rfl⟩
    · exact Or.inl rfl
    · exact Or.inr ⟨t, ht t rfl, rfl⟩

/-- An optional part before a mark. -/
theorem mem_optional_mul_mark :
    s ∈ optional (l * mark c) ↔ ∃ o : Option Text, (∀ t ∈ o, t ∈ l) ∧ s = o.elim [] (· ++ [c]) := by
  rw [mem_optional, mem_mul_mark]
  constructor
  · rintro (rfl | ⟨t, ht, rfl⟩)
    · exact ⟨none, by simp, rfl⟩
    · exact ⟨some t, by simpa using ht, rfl⟩
  · rintro ⟨_ | t, ht, rfl⟩
    · exact Or.inl rfl
    · exact Or.inr ⟨t, ht t rfl, rfl⟩

theorem mem_authority_iff : s ∈ authority ↔ ∃ a : AuthorityDerivation, a.Valid ∧ a.text = s := by
  rw [authority, Language.mem_mul]
  constructor
  · rintro ⟨_, ⟨_, before, h, hh, rfl⟩, _, after, rfl⟩
    obtain ⟨u, hu, rfl⟩ := mem_optional_mul_mark.mp before
    obtain ⟨p, hp, rfl⟩ := mem_optional_mark_mul.mp after
    exact ⟨⟨u, h, p⟩, ⟨hu, hh, hp⟩, rfl⟩
  · rintro ⟨a, ⟨hu, hh, hp⟩, rfl⟩
    refine ⟨_, Language.append_mem_mul ?_ hh, _, ?_, rfl⟩
    · exact mem_optional_mul_mark.mpr ⟨a.userInfo, hu, rfl⟩
    · exact mem_optional_mark_mul.mpr ⟨a.port, hp, rfl⟩

theorem mem_hierPart_iff :
    s ∈ hierPart ↔ ∃ (o : Option AuthorityDerivation) (path : Text),
      (∀ a ∈ o, a.Valid) ∧ path ∈ pathRule o ∧
        s = o.elim [] (fun a => char '/' :: char '/' :: a.text) ++ path := by
  have split : hierPart =
      mark '/' * (mark '/' * (authority * pathAbempty)) + pathRule none := by
    simp only [hierPart, pathRule, mul_assoc, add_assoc]
  rw [split, Language.mem_add]
  constructor
  · rintro (h | h)
    · obtain ⟨_, slash, rfl⟩ := mem_mark_mul.mp h
      obtain ⟨_, ⟨_, rule, path, hp, rfl⟩, rfl⟩ := mem_mark_mul.mp slash
      obtain ⟨a, ha, rfl⟩ := mem_authority_iff.mp rule
      exact ⟨some a, path, by simpa using ha, hp, rfl⟩
    · exact ⟨none, s, by simp, h, rfl⟩
  · rintro ⟨_ | a, path, ha, hp, rfl⟩
    · exact Or.inr hp
    · refine Or.inl (mem_mark_mul.mpr ⟨_, mem_mark_mul.mpr ⟨_, ?_, rfl⟩, rfl⟩)
      exact Language.append_mem_mul (mem_authority_iff.mpr ⟨a, ha a rfl, rfl⟩) hp

/-- **A text is a URI exactly if there is a derivation of it.** -/
theorem mem_uri_iff : s ∈ uri ↔ ∃ d : Derivation, d.Derives s := by
  rw [uri, Language.mem_mul]
  constructor
  · rintro ⟨_, ⟨_, ⟨_, before, _, hier, rfl⟩, _, after, rfl⟩, _, last, rfl⟩
    obtain ⟨scheme, hs, rfl⟩ := mem_mul_mark.mp before
    obtain ⟨o, path, ho, hp, rfl⟩ := mem_hierPart_iff.mp hier
    obtain ⟨q, hq, rfl⟩ := mem_optional_mark_mul.mp after
    obtain ⟨f, hf, rfl⟩ := mem_optional_mark_mul.mp last
    exact ⟨⟨scheme, o, path, q, f⟩, ⟨hs, ho, hp, hq, hf⟩,
      by simp [Derivation.text, Derivation.hierText]⟩
  · rintro ⟨d, ⟨hs, ha, hp, hq, hf⟩, rfl⟩
    have start : d.scheme ++ [char ':'] ∈ scheme * mark ':' := mem_mul_mark.mpr ⟨_, hs, rfl⟩
    have hier : d.hierText ∈ hierPart :=
      mem_hierPart_iff.mpr ⟨d.authority, d.path, ha, hp, rfl⟩
    have after : d.query.elim [] (char '?' :: ·) ∈ optional (mark '?' * query) :=
      mem_optional_mark_mul.mpr ⟨d.query, hq, rfl⟩
    have last : d.fragment.elim [] (char '#' :: ·) ∈ optional (mark '#' * fragment) :=
      mem_optional_mark_mul.mpr ⟨d.fragment, hf, rfl⟩
    have prior := Language.append_mem_mul (Language.append_mem_mul start hier) after
    exact ⟨_, prior, _, last, by simp [Derivation.text]⟩

end Dialer.Uri.Grammar
