import Dialer.Proofs.Uri.NormalForm

/-!
# Printing and parsing

A URL that has been parsed and names a host is printed as a text that parses back to it.

* `pieces` are the pieces of the printed text, which stand between its delimiters
  (`Normal.delimited`).
* `Normal.parseWith_toText` says that a URL of the form of parsed ones is parsed back, and
  `parse_toText` that this holds of every URL that has been parsed.
-/

namespace Dialer

open Uri Text

/-! ## Ports -/

/-- A written port is read back. -/
theorem Uri.port_of_digits {authority : Text} {n : Nat}
    (written : (Authority.hostPort authority).2 = digits n) (small : n ≤ 65535) :
    Authority.port authority = .ok (some n) := by
  have filled := digits_ne_nil n
  have numeric : (digits n).all CodePoint.isDigit = true :=
    List.all_eq_true.mpr fun _ => isDigit_of_mem_digits
  have short : (digits n).length ≤ 5 := length_digits_le (by decide) (by omega)
  have same := value_digits n
  rw [Authority.port, written]
  generalize digits n = t at filled numeric short same
  obtain ⟨c, t, rfl⟩ := List.exists_cons_of_ne_nil filled
  have few : ¬ maxDigits < (c :: t).length := by
    unfold maxDigits
    omega
  simp only [numeric, Bool.not_true, Bool.false_eq_true, if_false, if_neg few, same]
  exact if_neg (by omega)

/-- A written host is read back, if it has the form of one. -/
theorem Uri.HostForm.host_of_written {encode : HostEncoding} {authority host : Text}
    (form : HostForm host) (written : (Authority.hostPort authority).1 = host) :
    (Authority.host authority).mapM (Url.asciiHost encode) = .ok (some host) := by
  have named : Authority.host authority = some host := by
    obtain ⟨c, t, rfl⟩ := List.exists_cons_of_ne_nil form.nonempty
    rw [Authority.host, written]
    exact congrArg some form.lowered
  have ascii : Url.asciiHost encode host = .ok host := if_pos form.ascii
  rw [named, Option.mapM_some, ascii]
  rfl

theorem Text.all_isDigit_digits (n : Nat) : (digits n).all CodePoint.isDigit = true :=
  List.all_eq_true.mpr fun _ => isDigit_of_mem_digits

/-! ## Characters of components -/

namespace Uri

/-- Every component has some of the characters of a query. -/
theorem allows_query {component : Component} {c : CodePoint} (h : component.allows c = true) :
    Component.query.allows c = true := by
  cases component <;> simp only [Component.allows, Bool.or_eq_true] at h ⊢ <;> tauto

theorem isAscii_of_allows {component : Component} {s : Text}
    (h : s.all component.allows = true) : s.isAscii = true :=
  List.all_eq_true.mpr fun c hc =>
    decide_eq_true (toNat_lt_of_allows (allows_query (List.all_eq_true.mp h c hc)))

theorem legal_of_component {component : Component} {s : Text}
    (h : s.all component.allows = true) : s.any isIllegal = false :=
  legal_of_all h fun _ => allows_query

theorem allows_of_isDigit {c : CodePoint} (h : c.isDigit = true) :
    Component.userInfo.allows c = true := by
  simp [Component.allows, isUnreserved, CodePoint.isAlphanum, h]

theorem endsAuthority_of_allows {c : CodePoint} (h : Component.userInfo.allows c = true) :
    endsAuthority c = false := by
  refine Bool.eq_false_iff.mpr fun ends => ?_
  simp only [endsAuthority, Bool.or_eq_true, decide_eq_true_eq] at ends
  rcases ends with (rfl | rfl) | rfl <;> exact absurd h (by decide)

end Uri

namespace Url

theorem Fits.asciiForm {component : Component} {s : Text} (h : Fits component s) :
    Uri.asciiForm s = s :=
  asciiForm_of_isAscii (isAscii_of_allows h.chars)

theorem Fits.encodes {component : Component} {s : Text} (h : Fits component s) :
    Encodes component s :=
  (encodes_iff_of_isAscii (isAscii_of_allows h.chars)).mpr h.chars

/-! ## The pieces of a printed URL -/

/-- The pieces of the authority of a printed URL. -/
def authorityPieces (u : Url) (host : Text) : AuthorityPieces where
  userInfo := u.userInfo
  literal := host.contains ':'
  host
  port := u.port.map fun n => digits n.toNat

/-- The pieces of a printed URL. -/
def pieces (u : Url) (host : Text) : Pieces where
  scheme := u.scheme
  authority := some (u.authorityPieces host).text
  path := u.path.getD []
  query := u.query
  fragment := none

variable {encode : HostEncoding} {u : Url} {host : Text}

namespace Normal

theorem toText_eq (h : u.Normal) (named : u.host = some host) :
    u.toText = (u.pieces host).text := by
  have port : portSuffix u.port = (u.port.map fun n => digits n.toNat).elim [] (char ':' :: ·) := by
    cases hp : u.port with
    | none => rfl
    | some n =>
      obtain ⟨m, rfl⟩ := Int.eq_ofNat_of_zero_le (h.port n hp).1
      rfl
  have bracketed : Host.bracketed host = (u.authorityPieces host).hostText := by
    simp [Host.bracketed, AuthorityPieces.hostText, authorityPieces]
  simp [toText, authority, named, port, bracketed, Pieces.text, Pieces.hierText, Pieces.endText,
    pieces, AuthorityPieces.text, AuthorityPieces.hostPortText, authorityPieces, String.toText]

theorem wellFormed (h : u.Normal) (named : u.host = some host) (bracket : char '[' ∉ host) :
    (u.authorityPieces host).WellFormed := by
  have form := h.host host named
  refine ⟨fun t ht => ?_, form.host_at, form.host_closing, fun bare => ⟨bracket, ?_⟩,
    fun literal => form.literal (List.contains_iff_mem.mp literal), fun t ht => ?_⟩
  · have chars := (h.userInfo t ht).chars
    exact ⟨not_mem_of_all chars (by decide), not_mem_of_all chars (by decide)⟩
  · exact fun mem => Bool.eq_false_iff.mp bare (List.contains_iff_mem.mpr mem)
  · obtain ⟨n, -, rfl⟩ := Option.map_eq_some_iff.mp ht
    exact all_isDigit_digits n.toNat

/-- A property that no character of the authority has. -/
theorem any_authority (h : u.Normal) {p : CodePoint → Bool} (opening : p '[' = false)
    (closing : p ']' = false) (sign : p '@' = false)
    (user : ∀ c, Component.userInfo.allows c = true → p c = false) (inHost : host.any p = false) :
    (u.authorityPieces host).text.any p = false := by
  have lift {q : CodePoint → Bool} (hq : ∀ c, q c = true → p c = false) {s : Text}
      (hs : s.all q = true) : s.any p = false :=
    List.any_eq_false.mpr fun c hc => by simp [hq c (List.all_eq_true.mp hs c hc)]
  rw [AuthorityPieces.any_text opening closing sign (user ':' (by decide))]
  refine ⟨fun t ht => lift user (h.userInfo t ht).chars, inHost, fun t ht => ?_⟩
  obtain ⟨n, -, rfl⟩ := Option.map_eq_some_iff.mp ht
  exact lift (fun c hc => user c (allows_of_isDigit hc)) (all_isDigit_digits n.toNat)

theorem exists_path (h : u.Normal) (host : Text) :
    ∃ path, u.path = some path ∧ (u.pieces host).path = path ∧ Fits .path path ∧
      (u.host ≠ none → path = [] ∨ path.head? = some (char '/')) := by
  obtain ⟨path, hp, fits, rooted⟩ := h.path
  exact ⟨path, hp, by simp [pieces, hp], fits, rooted⟩

theorem delimited (h : u.Normal) (named : u.host = some host) : (u.pieces host).Delimited := by
  obtain ⟨path, -, same, fits, rooted⟩ := h.exists_path host
  have inside : (u.authorityPieces host).text.any endsAuthority = false :=
    h.any_authority (by decide) (by decide) (by decide) (fun _ => endsAuthority_of_allows)
      (h.host host named).inside
  refine ⟨⟨fun a ha => ?_, ?_, ?_, ?_, fun q hq => ?_⟩, fun s hs => (h.scheme s hs).1,
    fun unschemed => ?_⟩
  · obtain rfl := Option.some.inj ha
    simpa using inside
  · rw [same]
    exact rooted (by simp [named])
  · rw [same]
    exact not_mem_of_all fits.chars (by decide)
  · rw [same]
    exact not_mem_of_all fits.chars (by decide)
  · exact not_mem_of_all (h.query q hq).chars (by decide)
  · have unschemed : u.scheme = none := unschemed
    obtain ⟨t, ht⟩ : ∃ t, (u.pieces host).text = char '/' :: t := by
      simp [Pieces.text, Pieces.hierText, pieces, unschemed]
    rw [ht]
    exact cutScheme_slash t

/-! ## Checks of the printed text -/

theorem legal_text (h : u.Normal) (named : u.host = some host) :
    (u.pieces host).text.any isIllegal = false := by
  obtain ⟨path, -, same, fits, -⟩ := h.exists_path host
  refine (h.delimited named).legal_text (fun a ha => ?_) ?_ (fun q hq => ?_) nofun
  · obtain rfl := Option.some.inj ha
    exact h.any_authority (by decide) (by decide) (by decide)
      (fun c hc => legal_of_allows (allows_query hc)) (h.host host named).legal
  · rw [same]
    exact legal_of_component fits.chars
  · exact legal_of_component (h.query q hq).chars

theorem escapesFit_text (h : u.Normal) (named : u.host = some host) :
    escapesFit (u.pieces host).text = true := by
  obtain ⟨path, -, same, fits, -⟩ := h.exists_path host
  rw [(h.delimited named).escapesFit_text, same]
  refine ⟨⟨fun a ha => ?_, fits.escapes⟩, fun q hq => (h.query q hq).escapes, nofun⟩
  obtain rfl := Option.some.inj ha
  refine AuthorityPieces.escapesFit_text.mpr
    ⟨fun t ht => (h.userInfo t ht).escapes, (h.host host named).escapes, fun t ht => ?_⟩
  obtain ⟨n, -, rfl⟩ := Option.map_eq_some_iff.mp ht
  exact escapesFit_of_percent_not_mem (not_mem_of_all (all_isDigit_digits n.toNat) (by decide))

theorem split_text (h : u.Normal) (named : u.host = some host) (bracket : char '[' ∉ host) :
    Parts.split (u.pieces host).text = .ok (u.pieces host).parts := by
  have plain : (u.authorityPieces host).text.any Unicode.disguisesDelimiter = false :=
    h.any_authority (by decide) (by decide) (by decide)
      (fun c hc => Unicode.disguisesDelimiter_of_ascii (toNat_lt_of_allows (allows_query hc)))
      (any_disguisesDelimiter (h.host host named).ascii)
  have brackets := AuthorityPieces.checkBrackets_text (h.wellFormed named bracket)
  have disguise := checkDisguise_of_plain plain
  have authority : (u.pieces host).parts.authority = (u.authorityPieces host).text := rfl
  rw [(h.delimited named).split_text (h.legal_text named), authority, brackets, disguise]
  rfl

/-! ## Parts of the printed text -/

theorem port_text (h : u.Normal) (named : u.host = some host) (bracket : char '[' ∉ host) :
    Authority.port (u.authorityPieces host).text = .ok (u.port.map Int.toNat) := by
  have parts := AuthorityPieces.hostPort_text (h.wellFormed named bracket)
  cases hp : u.port with
  | none =>
    have missing : (u.authorityPieces host).port = none := by simp [authorityPieces, hp]
    rw [Authority.port, parts, missing]
    rfl
  | some n =>
    have range := h.port n hp
    refine port_of_digits ?_ (by omega)
    rw [parts]
    simp [authorityPieces, hp]

theorem host_text (h : u.Normal) (named : u.host = some host) (bracket : char '[' ∉ host) :
    (Authority.host (u.authorityPieces host).text).mapM (asciiHost encode) = .ok (some host) := by
  have written : (Authority.hostPort (u.authorityPieces host).text).1 = host := by
    rw [AuthorityPieces.hostPort_text (h.wellFormed named bracket)]
    rfl
  exact (h.host host named).host_of_written written

theorem userInfo_text (h : u.Normal) (named : u.host = some host) (bracket : char '[' ∉ host) :
    Authority.userInfo (u.pieces host).parts.authority = u.userInfo :=
  AuthorityPieces.userInfo_text (h.wellFormed named bracket)

theorem encodes_query_parts {p : Pieces} (h : u.Normal) (same : p.query = u.query) :
    Encodes .query p.parts.query := by
  cases hq : u.query with
  | none =>
    have missing : p.parts.query = [] := by simp [Pieces.parts, same, hq]
    rw [missing]
    exact ⟨rfl, rfl⟩
  | some q =>
    have query : p.parts.query = q := by simp [Pieces.parts, same, hq]
    rw [query]
    exact (h.query q hq).encodes

theorem scheme_parts {p : Pieces} (h : u.Normal) (same : p.scheme = u.scheme) :
    (if p.parts.scheme.isEmpty then none else some p.parts.scheme) = u.scheme := by
  cases hs : u.scheme with
  | none => simp [Pieces.parts, same, hs]
  | some s =>
    obtain ⟨valid, lowered⟩ := h.scheme s hs
    have filled : s ≠ [] := by
      rintro rfl
      cases valid
    have scheme : p.parts.scheme = s := by simp [Pieces.parts, same, hs, lowered]
    rw [scheme, List.isEmpty_eq_false_iff.mpr filled]
    rfl

theorem query_parts {p : Pieces} (h : u.Normal) (delimited : p.Delimited)
    (same : p.query = u.query) :
    (if hasQuery p.text then some (asciiForm p.parts.query) else none) = u.query := by
  rw [delimited.hasQuery_text, same]
  cases hq : u.query with
  | none => rfl
  | some q => simp [Pieces.parts, same, hq, (h.query q hq).asciiForm]

theorem checked (h : u.Normal) (named : u.host = some host) (bracket : char '[' ∉ host) :
    Checked (u.pieces host).text (u.pieces host).parts := by
  obtain ⟨path, -, same, fits, -⟩ := h.exists_path host
  refine ⟨fun t ht => ?_, ?_, fun _ => ?_, ⟨rfl, rfl⟩⟩
  · rw [h.userInfo_text named bracket] at ht
    exact (h.userInfo t ht).encodes
  · have path : (u.pieces host).parts.path = path := same
    rw [path]
    exact fits.encodes
  · exact h.encodes_query_parts rfl

theorem ofParts_text (h : u.Normal) (named : u.host = some host) (bracket : char '[' ∉ host) :
    ofParts (u.pieces host).text (u.pieces host).parts (u.port.map Int.toNat) (some host) = u := by
  obtain ⟨path, hp, same, fits, -⟩ := h.exists_path host
  have user : u.userInfo.map asciiForm = u.userInfo := by
    cases hu : u.userInfo with
    | none => rfl
    | some t => rw [Option.map_some, (h.userInfo t hu).asciiForm]
  have port : (u.port.map Int.toNat).map Int.ofNat = u.port := by
    cases hn : u.port with
    | none => rfl
    | some n => exact congrArg some (Int.toNat_of_nonneg (h.port n hn).1)
  have path' : some (asciiForm (u.pieces host).parts.path) = u.path := by
    have path' : (u.pieces host).parts.path = path := same
    rw [path', fits.asciiForm, hp]
  rw [ofParts, h.userInfo_text named bracket, h.scheme_parts rfl, user, port, path',
    h.query_parts (h.delimited named) rfl, ← named]

/-- **A URL of this form is parsed back**, whatever encodes the hosts that are not ASCII. -/
theorem parseWith_toText (h : u.Normal) (named : u.host = some host) (bracket : char '[' ∉ host) :
    parseWith encode u.toText = .ok u := by
  rw [h.toText_eq named]
  exact parseWith_eq_ok_iff.mpr ⟨h.legal_text named, h.escapesFit_text named,
    (u.pieces host).parts, _, _, h.split_text named bracket, h.port_text named bracket,
    h.host_text named bracket, h.checked named bracket, (h.ofParts_text named bracket).symm⟩

end Normal

/-- **Printing and parsing again changes nothing.** Whatever text a URL has been parsed from, it is
parsed back from its own text, if it names a host without an opening bracket. -/
theorem parse_toText {s : Text} (names : encode.GivesNames) (parsed : parseWith encode s = .ok u)
    (named : u.host = some host) (bracket : char '[' ∉ host) : parseWith encode u.toText = .ok u :=
  (normal_of_parseWith names parsed).parseWith_toText named bracket

/-- A text that is changed in every part: the scheme, the host, characters beyond ASCII and leading
zeros of the port. -/
theorem parse_toText_umlaut :
    let s : Text := "HTTP://\u00E9:p@B\u00FCcher.Example:0443?\u00E4".toText
    let name : Text := "xn--bcher-kva.example".toText
    let encode := HostEncoding.single "b\u00FCcher.example".toText name
    let u : Url := {
      scheme := some "http".toText
      userInfo := some "%C3%A9:p".toText
      host := some name
      port := some 443
      path := some []
      query := some "%C3%A4".toText }
    (encode.GivesNames ∧ parseWith encode s = .ok u ∧ u.host = some name ∧ char '[' ∉ name) ∧
      u.toText = "http://%C3%A9:p@xn--bcher-kva.example:443?%C3%A4".toText ∧
      parseWith encode u.toText = .ok u := by
  intro s name encode u
  have names : encode.GivesNames :=
    HostEncoding.givesNames_single ⟨by decide +kernel, by decide +kernel⟩
  have parsed : parseWith encode s = .ok u := toOption_eq_some.mp (by decide +kernel)
  have bracket : char '[' ∉ name := by decide +kernel
  exact ⟨⟨names, parsed, rfl, bracket⟩, by decide +kernel, parse_toText names parsed rfl bracket⟩

end Url

end Dialer
