import Dialer.Proofs.Uri.Encoding
import Dialer.Proofs.Uri.Printing

/-!
# URLs without a host

A URL that names no host is printed without an authority, so that its path follows the scheme. What
the text is parsed to depends on whether the path begins like an authority.

* `Unschemed` says that no scheme is read at the beginning of a text. Printing a parsed URL without
  a scheme leaves it so (`unschemed_toText`).
* `Url.pathAuthority` is the authority that is read in the path. `Normal.parseWith_bare_iff` gives
  the URL that is parsed back.
* `parse_toText_hostless` says when that URL names a host.
-/

namespace Dialer

open Uri Text

namespace Uri

/-! ## Texts without a scheme -/

/-- No scheme is read at the beginning of the text. -/
def Unschemed (s : Text) : Prop :=
  ∀ scheme rest, s = scheme ++ char ':' :: rest → isScheme scheme = false

variable {s t : Text}

theorem unschemed_iff : Unschemed s ↔ (cutScheme s).1 = [] := by
  constructor
  · intro h
    rcases cutScheme_cases s with same | ⟨scheme, rest, valid, whole⟩
    · rw [same]
    · rw [h scheme rest whole] at valid
      cases valid
  · rintro h scheme rest rfl
    refine Bool.eq_false_iff.mpr fun valid => ?_
    rw [cutScheme_append valid, List.map_eq_nil_iff] at h
    subst h
    cases valid

theorem Unschemed.cutScheme_eq (h : Unschemed s) : cutScheme s = ([], s) := by
  rcases cutScheme_cases s with same | ⟨scheme, rest, valid, whole⟩
  · exact same
  · rw [h scheme rest whole] at valid
    cases valid

theorem unschemed_of_cutScheme (h : cutScheme s = ([], s)) : Unschemed s :=
  unschemed_iff.mpr (by rw [h])

theorem Unschemed.of_append (h : Unschemed (s ++ t)) : Unschemed s := by
  rintro scheme rest rfl
  exact h scheme (rest ++ t) (by simp)

/-- What no scheme contains brings in none. -/
theorem Unschemed.append (h : Unschemed s)
    (stop : ∀ c ∈ t.head?, isSchemeChar c = false ∧ c ≠ ':') :
    Unschemed (s ++ t) := by
  intro scheme rest whole
  rcases List.append_eq_append_iff.mp whole with ⟨more, rfl, ht⟩ | ⟨more, rfl, ht⟩
  · -- the colon stands in the second part
    refine Bool.eq_false_iff.mpr fun valid => ?_
    rcases more with _ | ⟨c, more⟩
    · exact (stop ':' (by simp [ht])).2 rfl
    · have outside := (stop c (by simp [ht])).1
      exact not_mem_of_all (all_isSchemeChar valid) outside (by simp)
  · rcases more with _ | ⟨c, more⟩
    · obtain rfl : char ':' :: rest = t := ht
      exact absurd rfl (stop ':' rfl).2
    · obtain ⟨rfl, -⟩ := List.cons.inj ht
      exact h scheme more rfl

theorem unschemed_encoded (s : Text) : Unschemed (encoded s) ↔ Unschemed s := by
  rw [unschemed_iff, unschemed_iff, cutScheme_encoded]

theorem asciiForm_eq_encoded (legal : s.any isIllegal = false) : asciiForm s = encoded s := by
  rw [← asciiForm_encoded legal, asciiForm_of_isAscii (isAscii_encoded s)]

theorem Pieces.Delimited.scheme_eq_none {p : Pieces} (h : p.Delimited)
    (empty : p.parts.scheme.isEmpty = true) : p.scheme = none := by
  cases hs : p.scheme with
  | none => rfl
  | some scheme =>
    have valid := h.scheme scheme hs
    obtain rfl : scheme = [] := by simpa [Pieces.parts, hs] using empty
    cases valid

/-- The path of a text without a scheme, alone, has none either. -/
theorem Pieces.Delimited.unschemed_path {p : Pieces} (h : p.Delimited)
    (schemeless : p.scheme = none) : Unschemed p.path := by
  have begins := h.path
  cases ha : p.authority with
  | none =>
    have whole : p.text = p.path ++ p.endText := by
      simp [Pieces.text, Pieces.hierText, schemeless, ha]
    have text := unschemed_of_cutScheme (h.unschemed schemeless)
    rw [whole] at text
    exact text.of_append
  | some a =>
    rw [ha] at begins
    rcases begins with empty | slash
    · rw [empty]
      exact unschemed_iff.mpr rfl
    · obtain ⟨t, ht⟩ := List.head?_eq_some_iff.mp slash
      rw [ht]
      exact unschemed_of_cutScheme (cutScheme_slash t)

/-! ## Authorities of plain characters -/

theorem isAscii_lowerHost (h : s.isAscii = true) : (Authority.lowerHost s).isAscii = true := by
  rcases cut : cutFirst '%' s with ⟨name, zone⟩
  obtain ⟨rfl, percent⟩ := eq_of_cutFirst cut
  rw [isAscii_append, Bool.and_eq_true] at h
  rw [lowerHost_append percent, isAscii_append, h.2, Unicode.lower_of_isAscii h.1, Bool.and_true]
  refine List.all_eq_true.mpr fun c hc => decide_eq_true ?_
  obtain ⟨d, hd, rfl⟩ := List.mem_map.mp hc
  exact toNat_toLower_lt_iff.mpr (toNat_lt_of_isAscii h.1 hd)

theorem hostPort_subset {authority : Text} (bracket : char '[' ∉ authority) :
    (Authority.hostPort authority).1 ⊆ authority := by
  rcases last : cutLast '@' authority with ⟨userInfo, rest⟩
  rcases first : cutFirst ':' rest with ⟨host, port⟩
  obtain ⟨rfl, -⟩ := eq_of_cutLast last
  obtain ⟨rfl, -⟩ := eq_of_cutFirst first
  have fresh : char '[' ∉ host ++ port.elim [] (char ':' :: ·) := fun mem =>
    bracket (List.mem_append_right _ mem)
  simp only [Authority.hostPort, last, cutFirst_of_not_mem fresh, first]
  exact fun c hc => by simp [hc]

end Uri

/-! ## Paths that begin like an authority -/

namespace Url

/-- The authority that is read at the beginning of the path, empty if there is none. -/
def pathAuthority (u : Url) : Text := (cutAuthority (u.path.getD [])).1

/-- The path behind that. -/
def pathBehind (u : Url) : Text := (cutAuthority (u.path.getD [])).2

variable {encode : HostEncoding} {s : Text} {u v : Url}

theorem normal_of_hostless (parsed : parseWith encode s = .ok u) (hostless : u.host = none) :
    u.Normal := by
  refine normal_of_unencoded parsed fun parts split h named => ?_
  obtain ⟨-, -, parts', _, host, split', -, encoded, -, rfl⟩ := parseWith_eq_ok_iff.mp parsed
  obtain rfl : parts' = parts := Except.ok.inj (split'.symm.trans split)
  obtain rfl : host = none := hostless
  rw [named, Option.mapM_some] at encoded
  obtain ⟨name, -, same⟩ := bind_eq_ok.mp encoded
  cases same

theorem toText_of_hostless (hostless : u.host = none) :
    u.toText = u.scheme.elim [] (· ++ [char ':']) ++
      (u.path.getD [] ++ u.query.elim [] (char '?' :: ·)) := by
  simp [toText, authority, hostless]

/-- Printing a URL that has been parsed brings in no scheme. -/
theorem unschemed_toText (parsed : parseWith encode s = .ok u) (hostless : u.host = none)
    (schemeless : u.scheme = none) : Unschemed u.toText := by
  obtain ⟨p, port, host, delimited, rfl, legal, -, -, -, -, -, rfl⟩ :=
    exists_pieces_of_parseWith parsed
  obtain ⟨-, path, -⟩ := Pieces.any_of_text legal
  have none : p.scheme = none := by
    refine delimited.scheme_eq_none (by_contra fun filled => ?_)
    simp [ofParts, filled] at schemeless
  have unread : Unschemed (asciiForm p.path) := by
    rw [asciiForm_eq_encoded path, unschemed_encoded]
    exact delimited.unschemed_path none
  rw [toText_of_hostless hostless, schemeless]
  refine unread.append fun c hc => ?_
  generalize (ofParts p.text p.parts port host).query = query at hc
  cases query with
  | none => cases hc
  | some q =>
    obtain rfl : '?' = c := Option.some.inj hc
    exact ⟨by decide, by decide⟩

/-- The pieces of the text of a URL without a host. -/
structure Bare (u : Url) (p : Pieces) : Prop where
  delimited : p.Delimited
  text : p.text = u.toText
  scheme : p.scheme = u.scheme
  hier : u.path = some p.hierText
  query : p.query = u.query
  fragment : p.fragment = none
  pathAuthority : p.parts.authority = u.pathAuthority
  pathBehind : p.path = u.pathBehind

theorem Normal.exists_bare (h : u.Normal) (hostless : u.host = none)
    (unread : u.scheme = none → Unschemed u.toText) : ∃ p, Bare u p := by
  obtain ⟨path, hp, fits, -⟩ := h.path
  obtain ⟨authority, rest, inside, begins, rfl⟩ :=
    Pieces.exists_hier (not_mem_of_all fits.chars (c := '?') (by decide))
      (not_mem_of_all fits.chars (c := '#') (by decide))
  let p : Pieces := ⟨u.scheme, authority, rest, u.query, none⟩
  have behind {c : CodePoint} (hc : Component.path.allows c = false) : c ∉ rest := fun mem =>
    not_mem_of_all fits.chars hc (List.mem_append_right _ mem)
  have parted : p.Parted := ⟨inside, begins, behind (by decide), behind (by decide),
    fun q hq => not_mem_of_all (h.query q hq).chars (by decide)⟩
  have text : p.text = u.toText := by
    rw [toText_of_hostless hostless, hp]
    simp [p, Pieces.text, Pieces.hierText, Pieces.endText]
  have cut : cutAuthority (u.path.getD []) = (p.parts.authority, p.path) := by
    have read := Pieces.cutAuthority_hierText (p := ⟨u.scheme, authority, rest, none, none⟩)
      ⟨inside, begins, parted.path_query, parted.path_fragment, by simp⟩
    rw [hp]
    simpa [Pieces.endText, Pieces.hierText, Pieces.parts, p] using read
  refine ⟨p, { parted with scheme := fun t ht => (h.scheme t ht).1, unschemed := fun none => ?_ },
    text, rfl, hp, rfl, rfl, ?_, ?_⟩
  · rw [text]
    exact (unread none).cutScheme_eq
  · rw [Url.pathAuthority, cut]
  · rw [Url.pathBehind, cut]

namespace Bare

variable {p : Pieces} (bare : Bare u p) (h : u.Normal)

include bare h

theorem fits_hierText : Fits .path p.hierText := by
  obtain ⟨path, hp, fits, -⟩ := h.path
  obtain rfl := Option.some.inj (bare.hier.symm.trans hp)
  exact fits

theorem fits_path : Fits .path p.path := by
  have fits := bare.fits_hierText h
  have escapes := (Pieces.escapesFit_hierText bare.delimited.toParted).mp fits.escapes
  exact ⟨all_of_subset fits.chars (List.subset_append_right _ _), escapes.2⟩

theorem fits_authority : ∀ a ∈ p.authority, Fits .path a := by
  intro a ha
  have fits := bare.fits_hierText h
  have escapes := (Pieces.escapesFit_hierText bare.delimited.toParted).mp fits.escapes
  refine ⟨all_of_subset fits.chars fun c hc => ?_, escapes.1 a ha⟩
  simp [Pieces.hierText, Option.mem_def.mp ha, hc]

/-- The authority has the characters of a path, without a slash. -/
theorem chars_pathAuthority :
    u.pathAuthority.all Component.path.allows = true ∧ char '/' ∉ u.pathAuthority := by
  rw [← bare.pathAuthority]
  cases ha : p.authority with
  | none =>
    have empty : p.parts.authority = [] := by simp [Pieces.parts, ha]
    rw [empty]
    exact ⟨rfl, List.not_mem_nil⟩
  | some a =>
    have same : p.parts.authority = a := by simp [Pieces.parts, ha]
    rw [same]
    exact ⟨(bare.fits_authority h a ha).chars,
      not_mem_of_all (bare.delimited.authority a ha) (by decide)⟩

theorem legal_toText : u.toText.any isIllegal = false := by
  rw [← bare.text]
  refine bare.delimited.legal_text
    (fun a ha => legal_of_component (bare.fits_authority h a ha).chars)
    (legal_of_component (bare.fits_path h).chars) (fun q hq => ?_) (by simp [bare.fragment])
  rw [bare.query] at hq
  exact legal_of_component (h.query q hq).chars

theorem escapesFit_toText : escapesFit u.toText = true := by
  rw [← bare.text, bare.delimited.escapesFit_text, bare.query]
  exact ⟨⟨fun a ha => (bare.fits_authority h a ha).escapes, (bare.fits_path h).escapes⟩,
    fun q hq => (h.query q hq).escapes, by simp [bare.fragment]⟩

theorem split_toText : Parts.split u.toText = .ok p.parts := by
  have chars := (bare.chars_pathAuthority h).1
  have outside {c : CodePoint} (hc : Component.path.allows c = false) :
      u.pathAuthority.contains c = false :=
    Bool.eq_false_iff.mpr fun mem => not_mem_of_all chars hc (List.contains_iff_mem.mp mem)
  have brackets : Authority.checkBrackets u.pathAuthority = .ok () := by
    rw [Authority.checkBrackets, outside (by decide), outside (by decide)]
  have disguise := checkDisguise_of_plain (any_disguisesDelimiter (isAscii_of_allows chars))
  have legal := bare.legal_toText h
  rw [← bare.text] at legal ⊢
  rw [bare.delimited.split_text legal, bare.pathAuthority, brackets, disguise]
  rfl

/-- The host needs no encoding. -/
theorem host_toText : (Authority.host u.pathAuthority).mapM (asciiHost encode) =
    .ok (Authority.host u.pathAuthority) := by
  have chars := (bare.chars_pathAuthority h).1
  have bracket := not_mem_of_all chars (c := '[') (by decide)
  have written : (Authority.hostPort u.pathAuthority).1.isAscii = true :=
    isAscii_of_allows (all_of_subset chars (hostPort_subset bracket))
  unfold Authority.host
  split
  next => rfl
  next =>
    have ascii : asciiHost encode _ = .ok _ := if_pos (isAscii_lowerHost written)
    rw [Option.mapM_some, ascii]
    rfl

theorem chars_userInfo {t : Text} (ht : t ∈ Authority.userInfo u.pathAuthority) :
    t.all Component.path.allows = true ∧ char '/' ∉ t := by
  obtain ⟨chars, slash⟩ := bare.chars_pathAuthority h
  have subset := userInfo_subset u.pathAuthority t ht
  exact ⟨all_of_subset chars subset, fun mem => slash (subset mem)⟩

theorem asciiForm_userInfo {t : Text} (ht : t ∈ Authority.userInfo u.pathAuthority) :
    asciiForm t = t :=
  asciiForm_of_isAscii (isAscii_of_allows (bare.chars_userInfo h ht).1)

/-- Of the characters in a path, user info lacks but the slash and the `@`. -/
theorem encodes_userInfo_iff {t : Text} (ht : t ∈ Authority.userInfo u.pathAuthority) :
    Encodes .userInfo t ↔ char '@' ∉ t := by
  obtain ⟨chars, slash⟩ := bare.chars_userInfo h ht
  rw [encodes_iff_of_isAscii (isAscii_of_allows chars)]
  refine ⟨fun allowed => not_mem_of_all allowed (by decide), fun sign => ?_⟩
  refine List.all_eq_true.mpr fun c hc => ?_
  have allowed := List.all_eq_true.mp chars c hc
  have other : c ≠ '@' ∧ c ≠ '/' := ⟨fun e => sign (e ▸ hc), fun e => slash (e ▸ hc)⟩
  simpa [Component.allows, other] using allowed

theorem checked_iff :
    Checked u.toText p.parts ↔ ∀ t ∈ Authority.userInfo u.pathAuthority, char '@' ∉ t := by
  constructor
  · intro checked t ht
    have encodes := checked.userInfo t (by rwa [bare.pathAuthority])
    exact (bare.encodes_userInfo_iff h ht).mp encodes
  · intro plain
    have fragment : p.parts.fragment = [] := by simp [Pieces.parts, bare.fragment]
    refine ⟨fun t ht => ?_, (bare.fits_path h).encodes,
      fun _ => h.encodes_query_parts bare.query, ?_⟩
    · rw [bare.pathAuthority] at ht
      exact (bare.encodes_userInfo_iff h ht).mpr (plain t ht)
    · rw [fragment]
      exact ⟨rfl, rfl⟩

theorem ofParts_toText (n : Option Nat) :
    ofParts u.toText p.parts n (Authority.host u.pathAuthority) =
      { u with
        userInfo := Authority.userInfo u.pathAuthority
        host := Authority.host u.pathAuthority
        port := n.map Int.ofNat
        path := some u.pathBehind } := by
  have user : (Authority.userInfo u.pathAuthority).map asciiForm =
      Authority.userInfo u.pathAuthority := by
    cases info : Authority.userInfo u.pathAuthority with
    | none => rfl
    | some t => rw [Option.map_some, bare.asciiForm_userInfo h info]
  have path : asciiForm p.parts.path = u.pathBehind :=
    (bare.fits_path h).asciiForm.trans bare.pathBehind
  rw [ofParts, h.scheme_parts bare.scheme, bare.pathAuthority, user, path, ← bare.text,
    h.query_parts bare.delimited bare.query]

end Bare

/-- **What is parsed back** from the text of a URL without a host. -/
theorem Normal.parseWith_bare_iff (h : u.Normal) (hostless : u.host = none)
    (unread : u.scheme = none → Unschemed u.toText) :
    parseWith encode u.toText = .ok v ↔ ∃ n, Authority.port u.pathAuthority = .ok n ∧
      (∀ t ∈ Authority.userInfo u.pathAuthority, char '@' ∉ t) ∧
      v = { u with
        userInfo := Authority.userInfo u.pathAuthority
        host := Authority.host u.pathAuthority
        port := n.map Int.ofNat
        path := some u.pathBehind } := by
  obtain ⟨p, bare⟩ := h.exists_bare hostless unread
  rw [parseWith_eq_ok_iff]
  constructor
  · rintro ⟨-, -, parts, n, host, split, port, named, checked, rfl⟩
    obtain rfl := Except.ok.inj ((bare.split_toText h).symm.trans split)
    rw [bare.pathAuthority] at port named
    obtain rfl := Except.ok.inj ((bare.host_toText h).symm.trans named)
    have plain := (bare.checked_iff h).mp checked
    exact ⟨n, port, plain, bare.ofParts_toText h n⟩
  · rintro ⟨n, port, plain, rfl⟩
    refine ⟨bare.legal_toText h, bare.escapesFit_toText h, p.parts, n, _, bare.split_toText h, ?_,
      ?_, (bare.checked_iff h).mpr plain, (bare.ofParts_toText h n).symm⟩
    · rw [bare.pathAuthority]
      exact port
    · rw [bare.pathAuthority]
      exact bare.host_toText h

/-- A path that does not begin with two slashes is taken for what it is. -/
theorem Normal.parseWith_bare_of_not_begins (h : u.Normal) (hostless : u.host = none)
    (unread : u.scheme = none → Unschemed u.toText)
    (single : beginsAuthority (u.path.getD []) = false) :
    parseWith encode u.toText = .ok { u with userInfo := none, port := none } := by
  obtain ⟨path, hp, -, -⟩ := h.path
  have cut := cutAuthority_of_not_begins single
  have empty : u.pathAuthority = [] := by rw [pathAuthority, cut]
  have behind : some u.pathBehind = u.path := by rw [pathBehind, cut, hp]; rfl
  refine (h.parseWith_bare_iff hostless unread).mpr ⟨none, ?_, ?_, ?_⟩
  · rw [empty]
    rfl
  · rw [empty]
    nofun
  · rw [empty, behind, show Authority.host [] = u.host from hostless.symm]
    rfl

/-- **A URL without a host is parsed back as one with a host** exactly when its path begins like an
authority with a host, with a port that is one and with at most one `@`. -/
theorem parse_toText_hostless (parsed : parseWith encode s = .ok u) (hostless : u.host = none) :
    ((∃ v, parseWith encode u.toText = .ok v ∧ v.host ≠ none) ↔
      Authority.host u.pathAuthority ≠ none ∧
      (∃ n, Authority.port u.pathAuthority = .ok n) ∧
      ∀ t ∈ Authority.userInfo u.pathAuthority, char '@' ∉ t) ∧
    (beginsAuthority (u.path.getD []) = false →
      parseWith encode u.toText = .ok { u with userInfo := none, port := none }) := by
  have normal := normal_of_hostless parsed hostless
  have unread := unschemed_toText parsed hostless
  refine ⟨?_, normal.parseWith_bare_of_not_begins hostless unread⟩
  constructor
  · rintro ⟨v, again, named⟩
    obtain ⟨n, port, plain, rfl⟩ := (normal.parseWith_bare_iff hostless unread).mp again
    exact ⟨named, ⟨n, port⟩, plain⟩
  · rintro ⟨named, ⟨n, port⟩, plain⟩
    exact ⟨_, (normal.parseWith_bare_iff hostless unread).mpr ⟨n, port, plain, rfl⟩, named⟩

/-- User info and a port without a host between them. -/
theorem parse_toText_hostless_port :
    let s : Text := "ws://u@:80/chat?x".toText
    let u : Url := {
      scheme := some "ws".toText
      userInfo := some "u".toText
      port := some 80
      path := some "/chat".toText
      query := some "x".toText }
    (parseWith .asciiOnly s = .ok u ∧ u.host = none) ∧
      parseWith .asciiOnly u.toText = .ok { u with userInfo := none, port := none } := by
  intro s u
  have parsed : parseWith .asciiOnly s = .ok u := toOption_eq_some.mp (by decide +kernel)
  exact ⟨⟨parsed, rfl⟩, (parse_toText_hostless parsed rfl).2 (by decide)⟩

/-- An empty authority before a path with two slashes. -/
theorem parse_toText_inventedHost :
    let s : Text := "ws:////evil.example/chat".toText
    let u : Url := { scheme := some "ws".toText, path := some "//evil.example/chat".toText }
    let v : Url := {
      scheme := some "ws".toText
      host := some "evil.example".toText
      path := some "/chat".toText }
    parseWith .asciiOnly s = .ok u ∧ u.host = none ∧ u.toText = "ws://evil.example/chat".toText ∧
      parseWith .asciiOnly u.toText = .ok v := by
  intro s u v
  exact ⟨toOption_eq_some.mp (by decide +kernel), rfl, by decide +kernel,
    toOption_eq_some.mp (by decide +kernel)⟩

end Url

end Dialer
