import Dialer.Proofs.Uri.HostForm
import Dialer.Proofs.Uri.Parsing
import Dialer.Proofs.Uri.Ports

/-!
# The form of parsed URLs

Whatever text is parsed, in ASCII or not, the parts of its URL have only the characters that their
components allow and complete escapes, and the scheme and the host are in lower case.

* `escapesFit_quote` says that quoting completes no escape and breaks none.
* `Url.Normal` is the form of a URL, and `normal_of_parseWith` says that every parsed URL has it.
-/

namespace Dialer

open Uri Text

namespace Uri

/-! ## Quoting -/

/-- A character has at least one escape. -/
theorem exists_escapes (c : CodePoint) : ∃ t, escapes c = char '%' :: t := by
  unfold escapes
  rcases bytes : utf8 c with _ | ⟨b, bs⟩
  · cases c with
    | char c =>
      have positive := Char.utf8Size_pos c
      rw [← String.length_utf8EncodeChar, show String.utf8EncodeChar c = [] from bytes] at positive
      exact absurd positive (Nat.lt_irrefl 0)
    | surrogate => cases bytes
  · exact ⟨_, rfl⟩

theorem escapesFit_escapes_append (c : CodePoint) (s : Text) :
    escapesFit (escapes c ++ s) = escapesFit s := by
  unfold escapes
  induction utf8 c with
  | nil => rfl
  | cons b bytes ih =>
    have byte : b.toNat < 256 := b.toNat_lt
    have first : isHexDigit (hexDigitUpper (b.toNat / 16)) = true :=
      isHexDigit_hexDigitUpper (by omega)
    have second : isHexDigit (hexDigitUpper (b.toNat % 16)) = true :=
      isHexDigit_hexDigitUpper (by omega)
    rw [List.flatMap_cons, List.append_assoc, hexUpper, List.cons_append, List.cons_append,
      List.cons_append, List.nil_append, escapesFit_percent, first, second, ih]
    rfl

theorem quote_cons (c : CodePoint) (s : Text) :
    quote (c :: s) = (if isKept c then [c] else escapes c) ++ quote s := rfl

theorem isKept_of_isHexDigit {c : CodePoint} (h : isHexDigit c = true) : isKept c = true := by
  simp [isKept, Grammar.isUnreserved_of_isHexDigit h]

/-- Quoting leaves the escapes that are there and adds complete ones. -/
theorem escapesFit_quote {s : Text} (h : escapesFit s = true) : escapesFit (quote s) = true := by
  fun_induction escapesFit s with
  | case1 => rfl
  | case2 a b s ih =>
    simp only [Bool.and_eq_true] at h
    have percent : isKept '%' = true := by decide
    rw [quote_cons, quote_cons, quote_cons, if_pos percent, if_pos (isKept_of_isHexDigit h.1.1),
      if_pos (isKept_of_isHexDigit h.1.2)]
    simp only [List.cons_append, List.nil_append, escapesFit_percent, h.1.1, h.1.2, Bool.true_and]
    exact ih h.2
  | case3 c s _ ih =>
    simp only [Bool.and_eq_true, bne_iff_ne] at h
    rw [quote_cons]
    split
    next => rw [List.cons_append, List.nil_append, escapesFit_cons h.1]; exact ih h.2
    next => rw [escapesFit_escapes_append]; exact ih h.2

theorem escapesFit_asciiForm {s : Text} (h : escapesFit s = true) :
    escapesFit (asciiForm s) = true := by
  unfold asciiForm
  split
  · exact h
  · exact escapesFit_quote h

theorem mem_asciiForm {s : Text} {c : CodePoint} (kept : isKept c = true) (h : c ∈ s) :
    c ∈ asciiForm s := by
  unfold asciiForm
  split
  · exact h
  · exact List.mem_flatMap.mpr ⟨c, h, by simp [kept]⟩

theorem asciiForm_ne_nil {s : Text} (h : s ≠ []) : asciiForm s ≠ [] := by
  unfold asciiForm
  split
  · exact h
  · obtain ⟨c, s, rfl⟩ := List.exists_cons_of_ne_nil h
    obtain ⟨t, ht⟩ := exists_escapes c
    rw [quote_cons, ht]
    split <;> exact List.cons_ne_nil _ _

/-- The form of a path that follows an authority. -/
theorem rooted_asciiForm {s : Text} (h : s = [] ∨ s.head? = some (char '/')) :
    asciiForm s = [] ∨ (asciiForm s).head? = some (char '/') := by
  rcases h with rfl | slash
  · exact Or.inl rfl
  · obtain ⟨t, rfl⟩ := List.head?_eq_some_iff.mp slash
    refine Or.inr ?_
    unfold asciiForm
    split
    · rfl
    · have kept : isKept '/' = true := by decide
      rw [quote_cons, if_pos kept]
      rfl

/-! ## Schemes -/

theorem isSchemeChar_toLower (c : CodePoint) : isSchemeChar c.toLower = isSchemeChar c := by
  rcases Nat.lt_or_ge c.toNat 128 with small | large
  · exact of_decide_eq_true
      (of_ascii (p := fun c => isSchemeChar c.toLower = isSchemeChar c) (by decide +kernel) small)
  · rw [toLower_of_not_ascii large]

/-- Letter case does not matter to whether a text is a scheme. -/
theorem isScheme_map_toLower (s : Text) : isScheme (s.map CodePoint.toLower) = isScheme s := by
  cases s with
  | nil => rfl
  | cons c s =>
    simp only [List.map_cons, isScheme, isAlpha_toLower, List.all_map, Function.comp_def,
      isSchemeChar_toLower]

theorem toLower_map_toLower (s : Text) :
    (s.map CodePoint.toLower).map CodePoint.toLower = s.map CodePoint.toLower := by
  rw [List.map_map]
  exact List.map_congr_left fun c _ => toLower_toLower c

/-! ## Ports -/

theorem port_le {authority : Text} {n : Nat} (h : Authority.port authority = .ok (some n)) :
    n ≤ 65535 := by
  unfold Authority.port at h
  split at h
  next => cases h
  next written _ =>
    split at h
    next => cases h
    next =>
      split at h
      next => cases h
      next =>
        split at h
        next => cases h
        next small =>
          obtain rfl := Option.some.inj (Except.ok.inj h)
          exact Nat.not_lt.mp small

end Uri

/-! ## URLs -/

namespace Url

/-- The text has the characters of the component and complete escapes. -/
structure Fits (component : Component) (s : Text) : Prop where
  chars : s.all component.allows = true
  escapes : escapesFit s = true

/-- The form of parsed URLs. -/
structure Normal (u : Url) : Prop where
  scheme : ∀ s ∈ u.scheme, isScheme s = true ∧ s.map CodePoint.toLower = s
  userInfo : ∀ s ∈ u.userInfo, Fits .userInfo s
  host : ∀ h ∈ u.host, HostForm h
  port : ∀ n ∈ u.port, 0 ≤ n ∧ n ≤ 65535
  path : ∃ s, u.path = some s ∧ Fits .path s ∧ (u.host ≠ none → s = [] ∨ s.head? = some (char '/'))
  query : ∀ s ∈ u.query, Fits .query s

variable {encode : HostEncoding} {s : Text} {u : Url}

theorem fits_asciiForm {component : Component} {s : Text}
    (chars : (asciiForm s).all component.allows = true) (escapes : escapesFit s = true) :
    Fits component (asciiForm s) := ⟨chars, escapesFit_asciiForm escapes⟩

/-- A host is in lower case or has been encoded. -/
theorem mapM_asciiHost_eq_ok {authority h : Text}
    (encoded : (Authority.host authority).mapM (asciiHost encode) = .ok (some h)) :
    (Authority.hostPort authority).1 ≠ [] ∧
      ((Authority.lowerHost (Authority.hostPort authority).1 = h ∧ h.isAscii = true) ∨
        encode (Authority.lowerHost (Authority.hostPort authority).1) = some h) := by
  unfold Authority.host at encoded
  split at encoded
  next => cases encoded
  next filled =>
    refine ⟨filled, ?_⟩
    generalize Authority.lowerHost (Authority.hostPort authority).1 = lowered at encoded ⊢
    simp only [Option.mapM_some] at encoded
    obtain ⟨h', ascii, same⟩ := bind_eq_ok.mp encoded
    obtain rfl := Option.some.inj (Except.ok.inj same)
    unfold asciiHost at ascii
    split at ascii
    next plain =>
      obtain rfl := Except.ok.inj ascii
      exact Or.inl ⟨rfl, plain⟩
    next =>
      split at ascii
      next name some =>
        obtain rfl := Except.ok.inj ascii
        exact Or.inr some
      next => cases ascii

/-- What an authority is checked for before its host is taken from it. -/
structure CheckedAuthority (authority : Text) : Prop where
  legal : authority.any isIllegal = false
  escapes : escapesFit authority = true
  inside : authority.any endsAuthority = false
  brackets : Authority.checkBrackets authority = .ok ()
  port : ∃ n, Authority.port authority = .ok n
  userInfo : ∀ t ∈ Authority.userInfo authority, Encodes .userInfo t

theorem CheckedAuthority.exists_pieces {authority : Text} (h : CheckedAuthority authority) :
    ∃ a : AuthorityPieces, a.WellFormed ∧ a.text = authority := by
  obtain ⟨n, port⟩ := h.port
  refine AuthorityPieces.exists_authorityPieces h.brackets (fun t ht => ?_) port
  have allowed := (h.userInfo t ht).chars
  exact ⟨fun mem => not_mem_of_all allowed (by decide) (mem_asciiForm (by decide) mem),
    fun mem => not_mem_of_all allowed (by decide) (mem_asciiForm (by decide) mem)⟩

theorem CheckedAuthority.hostForm {authority h : Text}
    (names : encode.GivesNames)
    (checked : CheckedAuthority authority)
    (encoded : (Authority.host authority).mapM (asciiHost encode) = .ok (some h)) :
    HostForm h := by
  obtain ⟨a, well, rfl⟩ := checked.exists_pieces
  have parts := AuthorityPieces.hostPort_text well
  obtain ⟨filled, ⟨rfl, ascii⟩ | name⟩ := mapM_asciiHost_eq_ok encoded
  · rw [parts] at filled ascii ⊢
    have legal := (AuthorityPieces.any_text (by decide) (by decide) (by decide) (by decide)).mp
      checked.legal
    have inside := (AuthorityPieces.any_text (by decide) (by decide) (by decide) (by decide)).mp
      checked.inside
    have escapes := AuthorityPieces.escapesFit_text.mp checked.escapes
    refine hostForm_lowerHost filled ascii legal.2.1 escapes.2.1 inside.2.1 well.host_at
      well.host_closing fun colon => ?_
    cases literal : a.literal with
    | false => exact absurd colon (well.bare literal).2
    | true => exact well.literal literal
  · exact hostForm_of_isDomainName (names _ _ name)

theorem CheckedAuthority.userInfo_fits {authority t : Text} (h : CheckedAuthority authority)
    (ht : Authority.userInfo authority = some t) : Fits .userInfo (asciiForm t) := by
  have allowed := (h.userInfo t ht).chars
  obtain ⟨a, well, rfl⟩ := h.exists_pieces
  rw [AuthorityPieces.userInfo_text well] at ht
  exact fits_asciiForm allowed ((AuthorityPieces.escapesFit_text.mp h.escapes).1 t ht)

theorem checkedAuthority_parts {p : Pieces} {n : Option Nat} (delimited : p.Delimited)
    (legal : p.text.any isIllegal = false) (escapes : escapesFit p.text = true)
    (brackets : Authority.checkBrackets p.parts.authority = .ok ())
    (port : Authority.port p.parts.authority = .ok n) (checked : Checked p.text p.parts) :
    CheckedAuthority p.parts.authority := by
  have rest := delimited.escapesFit_text.mp escapes
  refine ⟨any_getD (Pieces.any_of_text legal).1, ?_, any_getD fun a ha => ?_, brackets,
    ⟨n, port⟩, checked.userInfo⟩
  · cases ha : p.authority with
    | none => simp [Pieces.parts, ha, escapesFit]
    | some a => simpa [Pieces.parts, ha] using rest.1.1 a ha
  · simpa using delimited.authority a ha

/-- The pieces of a text that is parsed, and what they have been checked for. -/
theorem exists_pieces_of_parseWith (parsed : parseWith encode s = .ok u) :
    ∃ (p : Pieces) (port : Option Nat) (host : Option Text), p.Delimited ∧ p.text = s ∧
      s.any isIllegal = false ∧ escapesFit s = true ∧ CheckedAuthority p.parts.authority ∧
      Authority.port p.parts.authority = .ok port ∧
      (Authority.host p.parts.authority).mapM (asciiHost encode) = .ok host ∧
      Checked s p.parts ∧ u = ofParts s p.parts port host := by
  obtain ⟨legal, escapes, parts, port, host, split, hasPort, encoded, checked, rfl⟩ :=
    parseWith_eq_ok_iff.mp parsed
  obtain ⟨p, delimited, rfl⟩ := Pieces.exists_pieces s
  obtain ⟨rfl, brackets⟩ := delimited.eq_of_split legal split
  have authority := checkedAuthority_parts delimited legal escapes brackets hasPort checked
  exact ⟨p, port, host, delimited, rfl, legal, escapes, authority, hasPort, encoded, checked, rfl⟩

theorem port_of_parseWith (parsed : parseWith encode s = .ok u) :
    ∀ n ∈ u.port, 0 ≤ n ∧ n ≤ 65535 := by
  obtain ⟨-, -, parts, port, host, -, hasPort, -, -, rfl⟩ := parseWith_eq_ok_iff.mp parsed
  intro n hn
  obtain ⟨m, rfl, rfl⟩ := Option.map_eq_some_iff.mp hn
  exact ⟨Int.natCast_nonneg m, Int.ofNat_le.mpr (port_le hasPort)⟩

theorem canWritePort_of_parseWith (parsed : parseWith encode s = .ok u) :
    canWritePort u.port = true := by
  cases named : u.port with
  | none => rfl
  | some n => exact canWritePort_of_le (port_of_parseWith parsed n named).2

/-- Every parsed URL can be printed. -/
theorem print_of_parseWith (parsed : parseWith encode s = .ok u) : u.print = .ok u.toText :=
  print_of_writable (canWritePort_of_parseWith parsed)

/-- **Every parsed URL has the form of one**, for any encoding of hosts into domain names. -/
theorem normal_of_parseWith (names : encode.GivesNames)
    (parsed : parseWith encode s = .ok u) : u.Normal := by
  have range := port_of_parseWith parsed
  obtain ⟨p, port, host, delimited, rfl, -, escapes, authority, -, encoded, checked, rfl⟩ :=
    exists_pieces_of_parseWith parsed
  obtain ⟨⟨-, path⟩, query, -⟩ := delimited.escapesFit_text.mp escapes
  refine ⟨fun t ht => ?_, fun t ht => ?_, fun h hh => ?_, range,
    ⟨_, rfl, fits_asciiForm checked.path.chars path, fun named => rooted_asciiForm ?_⟩,
    fun t ht => ?_⟩
  · simp only [ofParts] at ht
    split at ht
    next => cases ht
    next filled =>
      obtain rfl := Option.some.inj ht
      cases hs : p.scheme with
      | none => simp [Pieces.parts, hs] at filled
      | some scheme =>
        have lowered : p.parts.scheme = scheme.map CodePoint.toLower := by simp [Pieces.parts, hs]
        rw [lowered]
        refine ⟨?_, toLower_map_toLower scheme⟩
        rw [isScheme_map_toLower]
        exact delimited.scheme scheme hs
  · obtain ⟨t', ht', rfl⟩ := Option.map_eq_some_iff.mp ht
    exact authority.userInfo_fits ht'
  · obtain rfl : host = some h := hh
    exact authority.hostForm names encoded
  · have begins := delimited.path
    cases ha : p.authority with
    | some a => rwa [ha] at begins
    | none =>
      have empty : p.parts.authority = [] := by simp [Pieces.parts, ha]
      rw [empty] at encoded
      exact absurd (Except.ok.inj encoded).symm named
  · simp only [ofParts, delimited.hasQuery_text] at ht
    split at ht
    next present =>
      obtain rfl := Option.some.inj ht
      obtain ⟨q, hq⟩ := Option.isSome_iff_exists.mp present
      have allowed := (checked.query (by rw [delimited.hasQuery_text]; exact present)).chars
      have piece : p.parts.query = q := by simp [Pieces.parts, hq]
      rw [piece] at allowed ⊢
      exact fits_asciiForm allowed (query q hq)
    next => cases ht

/-- Where no host is encoded, nothing is assumed of the encoding. -/
theorem normal_of_unencoded (parsed : parseWith encode s = .ok u)
    (ascii : ∀ parts, Parts.split s = .ok parts →
      ∀ h ∈ Authority.host parts.authority, h.isAscii = true) : u.Normal := by
  obtain ⟨legal, escapes, parts, port, host, split, hasPort, encoded, checked, rfl⟩ :=
    parseWith_eq_ok_iff.mp parsed
  have unencoded {encode : HostEncoding} :
      (Authority.host parts.authority).mapM (asciiHost encode) = .ok _ :=
    mapM_asciiHost_of_isAscii (ascii parts split)
  refine normal_of_parseWith (s := s) HostEncoding.givesNames_asciiOnly ?_
  exact parseWith_eq_ok_iff.mpr ⟨legal, escapes, parts, port, host, split, hasPort,
    unencoded.trans (unencoded.symm.trans encoded), checked, rfl⟩

end Url

end Dialer
