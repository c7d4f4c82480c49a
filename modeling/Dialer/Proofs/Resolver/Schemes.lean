import Dialer.Proofs.Resolver.Assembly
import Dialer.Proofs.Uri.Hostless

/-!
# The decision for TLS

Whether a reference asks for TLS is decided by its scheme, and the scheme of a text is what stands
literally at its beginning.

* `scheme_of_parse` says which scheme the URL of a text has.
* `SchemeDecision` says what a text decides by its beginning.
* `isSecure_literal` says that every text that is parsed decides so, and resolving goes by it, and
  that no scheme with a character beyond ASCII is taken for a known one.
-/

namespace Dialer

open Uri Text

/-! ## Beginnings -/

/-- The text begins with the mark, in some letter case. -/
def Text.BeginsWith (s mark : Text) : Prop :=
  ∃ start rest, s = start ++ rest ∧ start.map CodePoint.toLower = mark

variable {encode : HostEncoding} {s scheme known : Text} {u : Url} {secure : Bool}
    {e : ReferenceError}

theorem beginsWith_colon_iff : s.BeginsWith (known ++ [char ':']) ↔
    ∃ scheme rest, s = scheme ++ char ':' :: rest ∧ scheme.map CodePoint.toLower = known := by
  constructor
  · rintro ⟨start, rest, rfl, lowered⟩
    obtain ⟨scheme, last, rfl, hs, hl⟩ := List.map_eq_append_iff.mp lowered
    obtain ⟨c, rfl, hc⟩ := List.map_eq_singleton_iff.mp hl
    obtain rfl : c = ':' := (toLower_eq_iff (by decide)).mp hc
    exact ⟨scheme, rest, by simp, hs⟩
  · rintro ⟨scheme, rest, rfl, rfl⟩
    refine ⟨scheme ++ [char ':'], rest, by simp, ?_⟩
    rw [List.map_append]
    rfl

/-- A text is cut after one scheme at most. -/
theorem eq_of_append_colon {scheme' rest rest' : Text} (valid : isScheme scheme = true)
    (valid' : isScheme scheme' = true)
    (same : scheme ++ char ':' :: rest = scheme' ++ char ':' :: rest') : scheme = scheme' := by
  have colon {t : Text} (h : isScheme t = true) : char ':' ∉ t :=
    not_mem_of_all (all_isSchemeChar h) (by decide)
  have cut := cutFirst_append (colon valid) rest
  rw [same, cutFirst_append (colon valid')] at cut
  exact (congrArg Prod.fst cut).symm

/-! ## The scheme of a text -/

/-- **The scheme of a URL** is what its text begins with, in lower case. -/
theorem scheme_of_parse (parsed : Url.parseWith encode s = .ok u) :
    (∃ scheme rest, isScheme scheme = true ∧ s = scheme ++ char ':' :: rest ∧
      u.scheme = some (scheme.map CodePoint.toLower)) ∨ Unschemed s ∧ u.scheme = none := by
  obtain ⟨p, _, _, delimited, rfl, -, -, -, -, -, -, rfl⟩ := Url.exists_pieces_of_parseWith parsed
  cases hs : p.scheme with
  | none =>
    refine Or.inr ⟨unschemed_of_cutScheme (delimited.unschemed hs), ?_⟩
    simp [Url.ofParts, Pieces.parts, hs]
  | some scheme =>
    have valid := delimited.scheme scheme hs
    have filled : scheme ≠ [] := by
      rintro rfl
      cases valid
    refine Or.inl ⟨scheme, p.hierText ++ p.endText, valid, by simp [Pieces.text, hs], ?_⟩
    simp [Url.ofParts, Pieces.parts, hs, filled]

theorem beginsWith_iff_scheme (parsed : Url.parseWith encode s = .ok u)
    (valid : isScheme known = true) :
    s.BeginsWith (known ++ [char ':']) ↔ u.scheme = some known := by
  have written {scheme : Text} (lowered : scheme.map CodePoint.toLower = known) :
      isScheme scheme = true := by
    rw [← isScheme_map_toLower, lowered]
    exact valid
  rw [beginsWith_colon_iff]
  rcases scheme_of_parse parsed with ⟨scheme, rest, valid', whole, named⟩ | ⟨unschemed, named⟩
  · rw [named, Option.some.injEq]
    constructor
    · rintro ⟨scheme', rest', whole', lowered⟩
      rw [eq_of_append_colon valid' (written lowered) (whole.symm.trans whole')]
      exact lowered
    · intro lowered
      exact ⟨scheme, rest, whole, lowered⟩
  · rw [named]
    refine iff_of_false ?_ nofun
    rintro ⟨scheme, rest, whole, lowered⟩
    exact absurd (written lowered) (by rw [unschemed scheme rest whole]; decide)

/-! ## The decision -/

theorem isScheme_of_mem_schemesFor (mem : known ∈ schemesFor secure) : isScheme known = true := by
  have all : ∀ secure, ∀ known ∈ schemesFor secure, isScheme known = true := by decide
  exact all secure known mem

/-- A text that is parsed is decided for when it begins with a known scheme. -/
theorem isSecure_of_parse_iff (parsed : Url.parseWith encode s = .ok u) :
    isSecure u.scheme = .ok secure ↔
      ∃ known ∈ schemesFor secure, s.BeginsWith (known ++ [char ':']) := by
  have begins : (∃ known ∈ schemesFor secure, s.BeginsWith (known ++ [char ':'])) ↔
      ∃ known ∈ schemesFor secure, u.scheme = some known := by
    refine exists_congr fun known => and_congr_right fun mem => ?_
    exact beginsWith_iff_scheme parsed (isScheme_of_mem_schemesFor mem)
  rw [begins]
  cases named : u.scheme with
  | none => exact iff_of_false nofun (by simp)
  | some scheme =>
    have lowered : scheme.map CodePoint.toLower = scheme := by
      rcases scheme_of_parse parsed with ⟨written, _, _, _, lowered⟩ | ⟨-, none⟩
      · obtain rfl := Option.some.inj (lowered.symm.trans named)
        exact toLower_map_toLower written
      · cases none.symm.trans named
    rw [isSecure_eq_ok_iff, lowered]
    simp

/-- A scheme that is refused is reported as it is. -/
theorem eq_of_isSecure_eq_error (filled : scheme ≠ [])
    (refused : isSecure (some scheme) = .error e) : e = .unknownScheme scheme := by
  obtain ⟨c, t, rfl⟩ := List.exists_cons_of_ne_nil filled
  rw [isSecure] at refused
  · split at refused
    next => cases refused
    next =>
      split at refused
      next => cases refused
      next => exact (Except.error.inj refused).symm
  · exact filled

/-- What a text decides by its beginning. -/
structure SchemeDecision (s : Text) (decision : Except ReferenceError Bool) : Prop where
  secure : decision = .ok true ↔ s.BeginsWith "wss:".toText ∨ s.BeginsWith "https:".toText
  plain : decision = .ok false ↔ s.BeginsWith "ws:".toText ∨ s.BeginsWith "http:".toText
  /-- Another scheme is reported in lower case. -/
  unknown : ∀ scheme ∈ Grammar.scheme, ∀ rest, s = scheme ++ char ':' :: rest →
    ∀ e, decision = .error e →
      e.kind = .unknownScheme ∧
      (Failure.reference e).scheme = some (.text (scheme.map CodePoint.toLower))
  /-- A text without a scheme is reported as such. -/
  missing : (¬ ∃ scheme ∈ Grammar.scheme, ∃ rest, s = scheme ++ char ':' :: rest) →
    ∃ e, decision = .error e ∧ e.kind = .location ∧ e.message = "The scheme part is empty."

theorem schemeDecision_isSecure (parsed : Url.parseWith encode s = .ok u) :
    SchemeDecision s (isSecure u.scheme) where
  secure := by
    rw [isSecure_of_parse_iff parsed]
    simp [schemesFor, secureSchemes, String.toText]
  plain := by
    rw [isSecure_of_parse_iff parsed]
    simp [schemesFor, plainSchemes, String.toText]
  unknown scheme rule rest whole e refused := by
    have valid := Grammar.mem_scheme_iff.mp rule
    rcases scheme_of_parse parsed with ⟨scheme', rest', valid', whole', named⟩ | ⟨unschemed, -⟩
    · obtain rfl := eq_of_append_colon valid' valid (whole'.symm.trans whole)
      have filled : scheme'.map CodePoint.toLower ≠ [] := by
        intro empty
        rw [← isScheme_map_toLower, empty] at valid'
        cases valid'
      rw [named] at refused
      obtain rfl := eq_of_isSecure_eq_error filled refused
      exact ⟨rfl, rfl⟩
    · rw [unschemed scheme rest whole] at valid
      cases valid
  missing none := by
    rcases scheme_of_parse parsed with ⟨scheme, rest, valid, whole, -⟩ | ⟨-, named⟩
    · exact absurd ⟨scheme, Grammar.mem_scheme_iff.mpr valid, rest, whole⟩ none
    · rw [named]
      exact ⟨.noScheme, rfl, rfl, rfl⟩

/-- Resolving a text goes by the decision. -/
theorem resolve_decision (parsed : Url.parseWith encode s = .ok u) (o : Overrides)
    (p : Environment) :
    match isSecure u.scheme with
    | .error e => resolve encode o (.text s) p = ⟨.error (.reference e), [], p⟩
    | .ok secure => ∀ t, (resolve encode o (.text s) p).outcome = .ok t → t.secure = secure := by
  have url : (Reference.text s).toUrl encode = .ok u := mapError_eq_ok.mpr parsed
  split
  next e refused =>
    have refusal : Refused encode (.text s) (.reference e) := .scheme url refused
    exact resolve_of_error refusal.ofReference o p
  next secure decided =>
    intro t resolved
    obtain ⟨u', secure', host, socket, accepted, rfl⟩ := accepted_of_resolved resolved
    obtain rfl := Except.ok.inj (accepted.url.symm.trans url)
    exact Except.ok.inj (accepted.scheme.symm.trans decided)

/-- **The decision for TLS is literally that of the scheme.** A text that is parsed decides by what
it begins with, and resolving it goes by that. Of all schemes that a URL may be given, those that
spell a known one in some case are decided for, and none of these has a character beyond ASCII. -/
theorem isSecure_literal :
    (∀ s u, Url.parseWith encode s = .ok u → SchemeDecision s (isSecure u.scheme) ∧
      ∀ o p, match isSecure u.scheme with
        | .error e => resolve encode o (.text s) p = ⟨.error (.reference e), [], p⟩
        | .ok secure => ∀ t, (resolve encode o (.text s) p).outcome = .ok t → t.secure = secure) ∧
    ∀ scheme : Text,
      (isSecure (some scheme) = .ok true ↔
        scheme.map CodePoint.toLower = "wss".toText ∨
          scheme.map CodePoint.toLower = "https".toText) ∧
      (isSecure (some scheme) = .ok false ↔
        scheme.map CodePoint.toLower = "ws".toText ∨ scheme.map CodePoint.toLower = "http".toText) ∧
      (scheme.isAscii = false → ∃ e, isSecure (some scheme) = .error e) := by
  refine ⟨fun s u parsed => ⟨schemeDecision_isSecure parsed, resolve_decision parsed⟩, ?_⟩
  intro scheme
  refine ⟨?_, ?_, ?_⟩
  · rw [isSecure_eq_ok_iff]
    simp [schemesFor, secureSchemes, String.toText]
  · rw [isSecure_eq_ok_iff]
    simp [schemesFor, plainSchemes, String.toText]
  · intro beyond
    cases decided : isSecure (some scheme) with
    | error e => exact ⟨e, rfl⟩
    | ok secure =>
      have known := isSecure_eq_ok_iff.mp decided
      have all : ∀ secure, ∀ known ∈ schemesFor secure, Text.isAscii known = true := by decide
      rw [← isAscii_map_toLower, all secure _ known] at beyond
      cases beyond

/-- A scheme in mixed case, and one that only full case folding takes for a known one. -/
theorem isSecure_literal_mixedCase :
    let s : Text := "hTTpS://h".toText
    let u : Url := { scheme := some "https".toText, host := some "h".toText, path := some [] }
    let p : Environment :=
      { network := refusingFirst, platform := {}, logging := ⟨10, 30, [.listener]⟩ }
    Url.parseWith .asciiOnly s = .ok u ∧ isSecure u.scheme = .ok true ∧
      (∃ t, (resolve .asciiOnly {} (.text s) p).outcome = .ok t ∧ t.secure = true) ∧
      ∃ e, isSecure (some "http\u017F".toText) = .error e := by
  intro s u p
  have parsed : Url.parseWith .asciiOnly s = .ok u := toOption_eq_some.mp (by decide +kernel)
  obtain ⟨texts, schemes⟩ := @isSecure_literal .asciiOnly
  obtain ⟨decision, resolving⟩ := texts s u parsed
  have begins : s.BeginsWith "https:".toText :=
    ⟨"hTTpS:".toText, "//h".toText, by decide, by decide⟩
  have secure : isSecure u.scheme = .ok true := decision.secure.mpr (Or.inr begins)
  have done : (resolve .asciiOnly {} (.text s) p).outcome.toBool = true := by decide +kernel
  have resolved := resolving {} p
  rw [secure] at resolved
  refine ⟨parsed, secure, ?_, (schemes _).2.2 (by decide)⟩
  cases outcome : (resolve .asciiOnly {} (.text s) p).outcome with
  | error e =>
    rw [outcome] at done
    cases done
  | ok t => exact ⟨t, rfl, resolved t outcome⟩

end Dialer
