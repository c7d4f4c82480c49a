import Dialer.Proofs.Uri.Parsing
import Dialer.Proofs.Uri.Rules
import Dialer.Proofs.Uri.Surrogates
import Dialer.Reference

/-!
# Parsing accepts the grammar

An ASCII text with a scheme and without brackets parses exactly if it is a URI by the grammar and
its port fits, and the URL is made of the parts of its derivation
(`Reference.parse_iff_mem_uri`). That is settled derivation by derivation:
`parseWith_text_eq_ok_iff` says when a text parses that delimiters take apart.
-/

namespace Dialer

namespace Uri

open Text

namespace Grammar

/-! ## Hosts and ports -/

theorem decimal_eq_value (s : Text) : decimal s = value s := by
  induction s using List.reverseRecOn with
  | nil => rfl
  | append_singleton s c ih =>
    simp only [decimal, value, List.map_append, List.map_cons, List.map_nil, List.reverse_append,
      List.reverse_cons, List.reverse_nil, List.nil_append, List.cons_append, Nat.ofDigits_cons,
      List.foldl_append, List.foldl_cons, List.foldl_nil] at ih ⊢
    rw [ih, Nat.add_comm]

theorem lowerHost_eq_loweredName {s : Text} (ascii : s.isAscii = true) :
    Authority.lowerHost s = loweredName s := by
  rcases cut : cutFirst '%' s with ⟨name, zone⟩
  obtain ⟨hs, -⟩ := eq_of_cutFirst cut
  have lower : Unicode.lower name = name.map CodePoint.toLower := by
    refine Unicode.lower_of_isAscii ?_
    rw [hs, isAscii, List.all_append, Bool.and_eq_true] at ascii
    exact ascii.1
  rw [loweredName, takeWhile_of_cutFirst cut, dropWhile_of_cutFirst cut, ← lower,
    Authority.lowerHost, cut]
  cases zone <;> simp

theorem isAscii_loweredName {s : Text} (ascii : s.isAscii = true) :
    (loweredName s).isAscii = true := by
  refine List.all_eq_true.mpr fun c hc => decide_eq_true ?_
  rcases List.mem_append.mp hc with lowered | kept
  · obtain ⟨d, hd, rfl⟩ := List.mem_map.mp lowered
    exact toNat_toLower_lt_iff.mpr
      (toNat_lt_of_isAscii ascii ((List.takeWhile_sublist _).mem hd))
  · exact toNat_lt_of_isAscii ascii ((List.dropWhile_sublist _).mem kept)

variable {a : AuthorityDerivation}

theorem AuthorityDerivation.host_text (h : a.Delimited) (bracket : char '[' ∉ a.text)
    (ascii : a.host.isAscii = true) : Authority.host a.text = a.hostName := by
  rw [Authority.host, hostPort_text h bracket, hostName]
  rcases host : a.host with _ | ⟨c, s⟩
  · rfl
  · rw [if_neg (by simp), ← lowerHost_eq_loweredName (host ▸ ascii)]

/-- The port is one exactly if it is made of digits and fits. -/
theorem AuthorityDerivation.port_text_eq_ok_iff (h : a.Delimited) (bracket : char '[' ∉ a.text)
    {n : Option Nat} : Authority.port a.text = .ok n ↔
      (∀ p ∈ a.port, p ∈ Grammar.port ∧ p.length ≤ 4300 ∧ decimal p ≤ 65535) ∧
        n = a.portNumber := by
  rw [Authority.port, hostPort_text h bracket, portNumber]
  rcases port : a.port with _ | _ | ⟨c, s⟩
  · simp [eq_comm]
  · simp only [Option.getD_some, Option.mem_some_iff, forall_eq', mem_port_iff, decimal]
    exact ⟨fun h => ⟨⟨rfl, by decide, by decide⟩, (Except.ok.inj h).symm⟩, fun h => h.2 ▸ rfl⟩
  · simp only [Option.getD_some, Option.mem_some_iff, forall_eq', mem_port_iff, decimal_eq_value]
    generalize c :: s = p
    by_cases digits : p.all CodePoint.isDigit = true
    · by_cases long : maxDigits < p.length
      · have : ¬ p.length ≤ 4300 := not_le.mpr long
        simp [digits, long, this]
      · have short : p.length ≤ 4300 := not_lt.mp long
        by_cases large : 65535 < value p
        · simp [digits, long, large]
        · have small : value p ≤ 65535 := not_lt.mp large
          simp [digits, long, short, large, small, eq_comm]
    · simp [digits]

/-! ## Parts of ASCII texts -/

namespace Derivation

variable {d : Derivation}

/-- A question mark before any fragment begins the query. -/
theorem hasQuery_text (h : d.Delimited) : Url.hasQuery d.text = d.query.isSome := by
  rw [← text_pieces]
  exact h.pieces.hasQuery_text

theorem path_subset : d.path ⊆ d.text := by
  intro c hc
  simp [text, hierText, hc]

theorem query_subset {q : Text} (hq : d.query = some q) : q ⊆ d.text := by
  intro c hc
  simp [text, hq, hc]

theorem fragment_subset {f : Text} (hf : d.fragment = some f) : f ⊆ d.text := by
  intro c hc
  simp [text, hf, hc]

theorem split_text_of_isAscii (h : d.Delimited) (legal : d.text.any isIllegal = false)
    (ascii : d.text.isAscii = true) (opening : char '[' ∉ d.text) (closing : char ']' ∉ d.text) :
    Parts.split d.text = .ok d.parts := by
  rw [← text_pieces] at legal ascii opening closing ⊢
  rw [← parts_pieces]
  exact h.pieces.split_text_of_isAscii legal ascii opening closing

/-! ## The parts of the authority -/

theorem userInfo_parts (h : d.Delimited) :
    Authority.userInfo d.parts.authority = d.authority.bind (·.userInfo) := by
  cases ha : d.authority with
  | none =>
    simp only [parts, ha]
    rfl
  | some a => simpa [parts, ha] using AuthorityDerivation.userInfo_text (h.authority a ha)

theorem host_parts (h : d.Delimited) (opening : char '[' ∉ d.text) (ascii : d.text.isAscii = true) :
    Authority.host d.parts.authority = d.authority.bind (·.hostName) := by
  cases ha : d.authority with
  | none =>
    simp only [parts, ha]
    rfl
  | some a =>
    have small : a.host.isAscii = true := List.all_eq_true.mpr fun c hc =>
      List.all_eq_true.mp ascii c (text_subset ha (by simp [AuthorityDerivation.text, hc]))
    have bracket : char '[' ∉ a.text := fun mem => opening (text_subset ha mem)
    simpa [parts, ha] using AuthorityDerivation.host_text (h.authority a ha) bracket small

theorem port_parts_eq_ok_iff (h : d.Delimited) (opening : char '[' ∉ d.text) {n : Option Nat} :
    Authority.port d.parts.authority = .ok n ↔
      (∀ a ∈ d.authority, ∀ p ∈ a.port, p ∈ Grammar.port ∧ p.length ≤ 4300 ∧ decimal p ≤ 65535) ∧
        n = d.authority.bind (·.portNumber) := by
  cases ha : d.authority with
  | none =>
    simp only [parts, ha]
    exact ⟨fun h => ⟨by simp, (Except.ok.inj h).symm⟩, fun h => h.2 ▸ rfl⟩
  | some a =>
    simpa [parts, ha] using AuthorityDerivation.port_text_eq_ok_iff (h.authority a ha)
      (fun mem => opening (text_subset ha mem))

/-! ## Checks -/

theorem asciiForm_of_subset {s : Text} (ascii : d.text.isAscii = true) (hs : s ⊆ d.text) :
    asciiForm s = s :=
  asciiForm_of_isAscii (all_of_subset ascii hs)

theorem userInfo_subset {t : Text} (ht : d.authority.bind (·.userInfo) = some t) : t ⊆ d.text := by
  obtain ⟨a, ha, hu⟩ := Option.bind_eq_some_iff.mp ht
  intro c hc
  exact text_subset ha (by simp [AuthorityDerivation.text, hu, hc])

/-- The checks of the parts, after an encoding that leaves ASCII as it is. -/
theorem checked_iff (h : d.Delimited) (ascii : d.text.isAscii = true) :
    Url.Checked d.text d.parts ↔
      (∀ a ∈ d.authority, ∀ u ∈ a.userInfo, u.all Component.userInfo.allows = true) ∧
      d.path.all Component.path.allows = true ∧
      (∀ q ∈ d.query, q.all Component.query.allows = true) ∧
      ∀ f ∈ d.fragment, f.all Component.fragment.allows = true := by
  have encodes {component : Component} {s : Text} (hs : s ⊆ d.text) :
      Url.Encodes component s ↔ s.all component.allows = true :=
    Url.encodes_iff_of_isAscii (all_of_subset ascii hs)
  have user : (∀ t ∈ Authority.userInfo d.parts.authority, Url.Encodes .userInfo t) ↔
      ∀ a ∈ d.authority, ∀ u ∈ a.userInfo, u.all Component.userInfo.allows = true := by
    rw [userInfo_parts h]
    constructor
    · intro all a ha u hu
      have both : d.authority.bind (·.userInfo) = some u :=
        Option.bind_eq_some_iff.mpr ⟨a, ha, hu⟩
      exact (encodes (userInfo_subset both)).mp (all u both)
    · intro all t ht
      obtain ⟨a, ha, hu⟩ := Option.bind_eq_some_iff.mp ht
      exact (encodes (userInfo_subset ht)).mpr (all a ha t hu)
  have path : Url.Encodes .path d.parts.path ↔ d.path.all Component.path.allows = true :=
    encodes path_subset
  have query : (Url.hasQuery d.text = true → Url.Encodes .query d.parts.query) ↔
      ∀ q ∈ d.query, q.all Component.query.allows = true := by
    rw [hasQuery_text h]
    cases hq : d.query with
    | none => simp
    | some q => simp [parts, hq, encodes (query_subset hq)]
  have fragment : Url.Encodes .fragment d.parts.fragment ↔
      ∀ f ∈ d.fragment, f.all Component.fragment.allows = true := by
    cases hf : d.fragment with
    | none =>
      have empty : Url.Encodes .fragment [] := ⟨rfl, rfl⟩
      simp [parts, hf, empty]
    | some f => simp [parts, hf, encodes (fragment_subset hf)]
  rw [← user, ← query, ← fragment, ← path]
  constructor
  · rintro ⟨hu, hp, hq, hf⟩
    exact ⟨hu, hp, hq, hf⟩
  · rintro ⟨hu, hp, hq, hf⟩
    exact ⟨hu, hp, hq, hf⟩

/-! ## Results -/

theorem hostName_isAscii (ascii : d.text.isAscii = true) {t : Text}
    (ht : d.authority.bind (·.hostName) = some t) : t.isAscii = true := by
  obtain ⟨a, ha, hn⟩ := Option.bind_eq_some_iff.mp ht
  rw [AuthorityDerivation.hostName] at hn
  split at hn
  next => exact absurd hn (by simp)
  next =>
    obtain rfl := Option.some.inj hn
    refine isAscii_loweredName (List.all_eq_true.mpr fun c hc => ?_)
    exact List.all_eq_true.mp ascii c
      (text_subset ha (by simp [AuthorityDerivation.text, hc]))

theorem mapM_asciiHost_hostName {encode : HostEncoding} (ascii : d.text.isAscii = true) :
    (d.authority.bind (·.hostName)).mapM (Url.asciiHost encode) =
      .ok (d.authority.bind (·.hostName)) :=
  Url.mapM_asciiHost_of_isAscii fun _ named => hostName_isAscii ascii named

/-- The URL of the parts that splitting finds is the one of the derivation. -/
theorem ofParts_text (h : d.Delimited) (ascii : d.text.isAscii = true) :
    Url.ofParts d.text d.parts (d.authority.bind (·.portNumber)) (d.authority.bind (·.hostName)) =
      d.url := by
  have scheme : (d.scheme.map CodePoint.toLower).isEmpty = false := by
    have rule := h.scheme
    cases hs : d.scheme with
    | nil => simp [hs, isScheme] at rule
    | cons c s => rfl
  have user : (d.authority.bind (·.userInfo)).map asciiForm = d.authority.bind (·.userInfo) := by
    cases hu : d.authority.bind (·.userInfo) with
    | none => rfl
    | some t => exact congrArg some (asciiForm_of_subset ascii (userInfo_subset hu))
  have query : (if Url.hasQuery d.text then some (asciiForm d.parts.query) else none) =
      d.query := by
    rw [hasQuery_text h]
    cases hq : d.query with
    | none => rfl
    | some q => simp [parts, hq, asciiForm_of_subset ascii (query_subset hq)]
  have path : asciiForm d.parts.path = d.path := asciiForm_of_subset ascii path_subset
  have lowered : d.parts.scheme = d.scheme.map CodePoint.toLower := rfl
  rw [Url.ofParts, userInfo_parts h, user, query, path, lowered, scheme]
  rfl

/-! ## Acceptance -/

/-- **A text parses exactly if its parts follow the rules and its port fits**, whatever encodes
the hosts that are not ASCII. -/
theorem parseWith_text_eq_ok_iff {encode : HostEncoding} (h : d.Delimited)
    (ascii : d.text.isAscii = true) (opening : char '[' ∉ d.text) (closing : char ']' ∉ d.text)
    {u : Url} :
    Url.parseWith encode d.text = .ok u ↔ d.Valid ∧ d.PortFits ∧ u = d.url := by
  rw [valid_iff h opening, Url.parseWith_eq_ok_iff]
  constructor
  · rintro ⟨legal, fits, parts, n, name, split, port, host, checked, rfl⟩
    rw [split_text_of_isAscii h legal ascii opening closing] at split
    obtain rfl := Except.ok.inj split
    obtain ⟨ports, rfl⟩ := (port_parts_eq_ok_iff h opening).mp port
    obtain ⟨user, path, query, fragment⟩ := (checked_iff h ascii).mp checked
    rw [host_parts h opening ascii, mapM_asciiHost_hostName ascii] at host
    obtain rfl := Except.ok.inj host
    refine ⟨⟨⟨user, fun a ha => ?_, fun a ha p hp => (ports a ha p hp).1, path, query, fragment⟩,
      fits⟩, fun a ha p hp => (ports a ha p hp).2, ofParts_text h ascii⟩
    exact host_all_isNameChar h legal ascii opening closing ha
  · rintro ⟨⟨allowed, fits⟩, small, rfl⟩
    have legal := legal_text h allowed
    refine ⟨legal, fits, d.parts, _, _, split_text_of_isAscii h legal ascii opening closing,
      (port_parts_eq_ok_iff h opening).mpr
        ⟨fun a ha p hp => ⟨allowed.port a ha p hp, small a ha p hp⟩, rfl⟩, ?_,
      (checked_iff h ascii).mpr
        ⟨allowed.userInfo, allowed.path, allowed.query, allowed.fragment⟩,
      (ofParts_text h ascii).symm⟩
    rw [host_parts h opening ascii, mapM_asciiHost_hostName ascii]

/-- A text has a query exactly if it has a question mark before any fragment. -/
theorem query_eq_none_iff (h : d.Delimited) :
    d.query = none ↔ char '?' ∉ d.text.takeWhile (· ≠ char '#') := by
  have present := hasQuery_text h
  rw [takeWhile_of_cutFirst (Prod.mk.eta (p := cutFirst '#' d.text)).symm]
  rw [Url.hasQuery] at present
  rw [← Option.not_isSome_iff_eq_none, ← present, List.contains_iff_mem]

end Derivation

/-- An authority has user info exactly if it has an at sign. -/
theorem AuthorityDerivation.userInfo_eq_none_iff {a : AuthorityDerivation} (h : a.Delimited) :
    a.userInfo = none ↔ char '@' ∉ a.text := by
  have rest := at_not_mem_hostPortText h
  rw [hostPortText] at rest
  cases hu : a.userInfo with
  | none => simpa [text, hu] using rest
  | some u => simp [text, hu]

end Grammar

end Uri

namespace Reference

open Uri.Grammar

variable {encode : HostEncoding}

theorem parse_eq_ok_iff {s : Text} {u : Url} :
    parse encode s = .ok u ↔ Url.parseWith encode s = .ok u :=
  mapError_eq_ok

theorem kind_of_parse_eq_error {s : Text} {e : Failure}
    (plain : s.any CodePoint.isSurrogate = false)
    (h : parse encode s = .error e) : e.kind = .unparsable := by
  rw [parse] at h
  cases hs : Url.parseWith encode s with
  | ok u => simp [hs, Except.mapError] at h
  | error reason =>
    rw [hs] at h
    obtain rfl := Except.error.inj h
    cases reason with
    | unencodable e =>
      have surrogates := (Url.parseWith_eq_unencodable_iff.mp hs).any_isSurrogate
      rw [plain] at surrogates
      cases surrogates
    | _ => rfl

/-- **Parsing accepts the grammar.** An ASCII text without brackets that begins with a scheme is
parsed exactly if it is a URI whose port fits. It is then the URL of its derivation; otherwise it is
refused as unparsable. -/
theorem parse_iff_mem_uri (encode : HostEncoding) {s : Text} (ascii : s.isAscii = true)
    (opening : char '[' ∉ s) (closing : char ']' ∉ s)
    (begins : ∃ a ∈ scheme, ∃ rest, s = a ++ char ':' :: rest) :
    ((∃ u, parse encode s = .ok u) ↔ s ∈ uri ∧ ∀ d : Derivation, d.Derives s → d.PortFits) ∧
    (∀ d : Derivation, d.Derives s → d.PortFits → parse encode s = .ok d.url ∧
      (d.url.userInfo = none ↔ ∀ a ∈ d.authority, char '@' ∉ a.text) ∧
      (d.url.query = none ↔ char '?' ∉ s.takeWhile (· ≠ char '#'))) ∧
    (¬ (s ∈ uri ∧ ∀ d : Derivation, d.Derives s → d.PortFits) →
      ∃ e, parse encode s = .error e ∧ e.kind = .unparsable) := by
  obtain ⟨a, ha, rest, hs⟩ := begins
  obtain ⟨d, delimited, text⟩ := exists_delimited (mem_scheme_iff.mp ha) rest
  obtain rfl : d.text = s := text.trans hs.symm
  have derives (d' : Derivation) (h : d'.Derives d.text) {u : Url} :
      parse encode d.text = .ok u ↔ d'.PortFits ∧ u = d'.url := by
    obtain ⟨valid, same⟩ := h
    rw [← same] at ascii opening closing ⊢
    rw [parse_eq_ok_iff,
      Derivation.parseWith_text_eq_ok_iff (valid.delimited opening) ascii opening closing]
    exact and_iff_right valid
  have accepted : (∃ u, parse encode d.text = .ok u) ↔
      d.text ∈ uri ∧ ∀ d' : Derivation, d'.Derives d.text → d'.PortFits := by
    constructor
    · rintro ⟨u, hu⟩
      have rules := (Derivation.parseWith_text_eq_ok_iff delimited ascii opening closing).mp
        (parse_eq_ok_iff.mp hu)
      exact ⟨mem_uri_iff.mpr ⟨d, rules.1, rfl⟩, fun d' h => ((derives d' h).mp hu).1⟩
    · rintro ⟨mem, fits⟩
      obtain ⟨d', h⟩ := mem_uri_iff.mp mem
      exact ⟨d'.url, (derives d' h).mpr ⟨fits d' h, rfl⟩⟩
  refine ⟨accepted, fun d' h fits => ⟨(derives d' h).mpr ⟨fits, rfl⟩, ?_, ?_⟩, fun refused => ?_⟩
  · obtain ⟨valid, same⟩ := h
    rw [← same] at opening
    have parted := (valid.delimited opening).authority
    cases ha : d'.authority with
    | none => simp [Derivation.url, ha]
    | some b =>
      simpa [Derivation.url, ha] using AuthorityDerivation.userInfo_eq_none_iff (parted b ha)
  · obtain ⟨valid, same⟩ := h
    rw [← same] at opening ⊢
    exact Derivation.query_eq_none_iff (valid.delimited opening)
  · cases h : parse encode d.text with
    | ok u => exact absurd (accepted.mp ⟨u, h⟩) refused
    | error e => exact ⟨e, rfl, kind_of_parse_eq_error (Text.any_isSurrogate_of_isAscii ascii) h⟩

/-- The parts of a text whose delimiters stand again in its later parts. -/
def repeatedDelimiters : Derivation where
  scheme := "HtTp".toText
  authority := some ⟨some "u:p".toText, "Ho%2Fst".toText, some "0080".toText⟩
  path := "//a@b".toText
  query := some "c?d".toText
  fragment := some "e?f".toText

theorem repeatedDelimiters_valid : repeatedDelimiters.Valid where
  scheme := mem_scheme_iff.mpr (by decide +kernel)
  authority a ha := by
    obtain rfl := Option.some.inj ha
    refine ⟨fun u hu => ?_, ?_, fun p hp => ?_⟩
    · obtain rfl := Option.some.inj hu
      exact mem_userinfo_iff.mpr (by decide +kernel)
    · exact (mem_host_iff (by decide +kernel)).mpr (mem_regName_iff.mpr (by decide +kernel))
    · obtain rfl := Option.some.inj hp
      exact mem_port_iff.mpr (by decide +kernel)
  path := mem_pathAbempty_iff.mpr (by decide +kernel)
  query q hq := by
    obtain rfl := Option.some.inj hq
    exact mem_query_iff.mpr (by decide +kernel)
  fragment f hf := by
    obtain rfl := Option.some.inj hf
    exact mem_fragment_iff.mpr (by decide +kernel)

theorem parse_repeatedDelimiters :
    let s : Text := "HtTp://u:p@Ho%2Fst:0080//a@b?c?d#e?f".toText
    (s.isAscii = true ∧ char '[' ∉ s ∧ char ']' ∉ s ∧
      ∃ a ∈ scheme, ∃ rest, s = a ++ char ':' :: rest) ∧
    parse .asciiOnly s = .ok {
      scheme := some "http".toText
      userInfo := some "u:p".toText
      host := some "ho%2Fst".toText
      port := some 80
      path := some "//a@b".toText
      query := some "c?d".toText } := by
  intro s
  have ascii : s.isAscii = true := by decide +kernel
  have opening : char '[' ∉ s := by decide +kernel
  have closing : char ']' ∉ s := by decide +kernel
  have begins : ∃ a ∈ scheme, ∃ rest, s = a ++ char ':' :: rest :=
    ⟨"HtTp".toText, mem_scheme_iff.mpr (by decide +kernel),
      "//u:p@Ho%2Fst:0080//a@b?c?d#e?f".toText, by decide +kernel⟩
  have derives : repeatedDelimiters.Derives s := ⟨repeatedDelimiters_valid, by decide +kernel⟩
  have fits : repeatedDelimiters.PortFits := by
    intro a ha p hp
    obtain rfl := Option.some.inj ha
    obtain rfl := Option.some.inj hp
    decide +kernel
  have accepted := (parse_iff_mem_uri .asciiOnly ascii opening closing begins).2.1 _ derives fits
  refine ⟨⟨ascii, opening, closing, begins⟩, accepted.1.trans (congrArg Except.ok ?_)⟩
  decide +kernel

end Reference

end Dialer
