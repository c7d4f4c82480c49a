import Dialer.Proofs.Resolver.Handshake
import Dialer.Proofs.Uri.Printing

/-!
# The texts of the opening handshake

What resolving hands over for the opening handshake when the URL comes from a text, be it the
reference itself or what an object says its URL is.

* `resolve_inert` says that no character of these texts ends a header or a request line or means
  something else there.
* `resolve_lossless` says that the host, the port, the path and the query are read back from them.
-/

namespace Dialer

open Uri Text

/-! ## References that come from texts -/

namespace Reference

variable {encode : HostEncoding}

theorem convertRendering_eq_ok {rendering : Rendering} {u : Url}
    (h : convertRendering encode rendering = .ok u) : ∃ s, Url.parseWith encode s = .ok u := by
  cases rendering with
  | missing => cases h
  | text s => exact ⟨s, mapError_eq_ok.mp h⟩
  | bytes b =>
    rw [convertRendering] at h
    split at h
    · exact ⟨_, mapError_eq_ok.mp h⟩
    · cases h

/-- A reference that is not a URL already has one only by parsing a text. -/
theorem exists_parse {r : Reference} {u : Url} (textual : ∀ u, r ≠ .url u)
    (h : r.toUrl encode = .ok u) : ∃ s, Url.parseWith encode s = .ok u := by
  unfold toUrl at h
  cases hr : r.rendering? with
  | some rendering =>
    rw [hr] at h
    cases rendering with
    | error e => cases h
    | ok rendering => exact convertRendering_eq_ok h
  | none =>
    rw [hr] at h
    cases r with
    | text s => exact ⟨s, mapError_eq_ok.mp h⟩
    | url u => exact absurd rfl (textual u)
    | missing | unsupported | parts | paramParts | split | splitParams | locator => cases h

end Reference

variable {encode : HostEncoding} {o : Overrides} {r : Reference} {p : Environment} {t : Target}
    {u : Url}

/-- What is resolved is an accepted reference, and its target is made of its URL. -/
theorem accepted_of_resolved (resolved : (resolve encode o r p).outcome = .ok t) :
    ∃ u secure host socket, Accepted encode r u secure host ∧
      t = (u.endpoint secure host).target socket := by
  rcases refused_or_accepted encode r with ⟨e, refused⟩ | ⟨u, secure, host, accepted⟩
  · rw [resolve_of_error refused.ofReference] at resolved
    cases resolved
  · obtain ⟨call, -, outcome⟩ := accepted.dialsOnce o p
    rw [outcome] at resolved
    cases result : call.outcome with
    | error e =>
      rw [result] at resolved
      cases resolved
    | ok socket =>
      rw [result] at resolved
      exact ⟨u, secure, host, socket, accepted, Endpoint.eq_target_of_handOver resolved⟩

/-! ## Characters -/

/-- Whether the character is visible and has a place in a URI. -/
def isVisible (c : CodePoint) : Bool :=
  0x21 ≤ c.toNat && c.toNat ≤ 0x7E && !"\"<>\\^\x60\x7b|\x7d".toText.contains c

theorem isVisible_of_legal {c : CodePoint} (ascii : c.toNat < 128) (legal : isIllegal c = false) :
    isVisible c = true := by
  simp only [isIllegal, Bool.or_eq_false_iff, decide_eq_false_iff_not] at legal
  obtain ⟨⟨low, delete⟩, other⟩ := legal
  simp only [isVisible, other, Bool.not_false, Bool.and_true, Bool.and_eq_true, decide_eq_true_eq]
  omega

theorem isVisible_of_allows {c : CodePoint} (h : Component.query.allows c = true) :
    isVisible c = true :=
  isVisible_of_legal (toNat_lt_of_allows h) (legal_of_allows h)

theorem all_isVisible_of_component {component : Component} {s : Text}
    (h : s.all component.allows = true) : s.all isVisible = true :=
  List.all_eq_true.mpr fun c hc => isVisible_of_allows (allows_query (List.all_eq_true.mp h c hc))

theorem Uri.HostForm.all_isVisible {host : Text} (h : HostForm host) : host.all isVisible = true :=
  List.all_eq_true.mpr fun c hc => isVisible_of_legal (toNat_lt_of_isAscii h.ascii hc)
    (by simpa using List.any_eq_false.mp h.legal c hc)

/-- The characters of the header beside those of the host are brackets, a colon and digits. -/
theorem all_hostHeader {q : CodePoint → Bool} {host : Text} (inHost : host.all q = true)
    (opening : q '[' = true) (closing : q ']' = true)
    (port : ∀ c, Component.userInfo.allows c = true → q c = true) (n : Option Int) :
    (hostHeader host n).all q = true := by
  have bracketed : (Host.bracketed host).all q = true := by
    unfold Host.bracketed
    split
    · simp only [List.all_append, List.all_cons, List.all_nil, inHost, opening, closing]
      rfl
    · exact inHost
  have suffix : (portSuffix n).all q = true := by
    unfold portSuffix
    split
    next n =>
      rw [List.all_cons, port ':' (by decide), Bool.true_and, List.all_eq_true]
      exact fun c hc => port c (allows_of_isDigit (isDigit_of_mem_digits hc))
    next => rfl
  rw [hostHeader, List.all_append, suffix, Bool.and_true]
  split
  · exact inHost
  · exact bracketed

theorem not_mem_hostHeader {host : Text} {c : CodePoint} (inHost : c ∉ host) (opening : c ≠ '[')
    (closing : c ≠ ']') (port : Component.userInfo.allows c = false) (n : Option Int) :
    c ∉ hostHeader host n := by
  refine not_mem_of_all (p := (· != c)) (all_hostHeader ?_ ?_ ?_ ?_ n) (by simp)
  · exact List.all_eq_true.mpr fun d hd => bne_iff_ne.mpr fun e => inHost (e ▸ hd)
  · exact bne_iff_ne.mpr opening.symm
  · exact bne_iff_ne.mpr closing.symm
  · rintro d hd
    refine bne_iff_ne.mpr ?_
    rintro rfl
    rw [port] at hd
    cases hd

/-! ## The request target -/

/-- The path of a parsed URL that names a host is rooted by adding a slash if it is empty. -/
theorem exists_rootedPath (h : u.Normal) (named : u.host ≠ none) :
    ∃ rest, rootedPath u.path = char '/' :: rest ∧ Url.Fits .path (char '/' :: rest) := by
  obtain ⟨path, hp, fits, rooted⟩ := h.path
  rcases rooted named with rfl | slash
  · exact ⟨[], by rw [hp]; rfl, by decide, by decide⟩
  · obtain ⟨rest, rfl⟩ := List.head?_eq_some_iff.mp slash
    exact ⟨rest, by rw [hp]; rfl, fits⟩

/-- The request target has the characters of a query and complete escapes. -/
theorem fits_requestTarget (h : u.Normal) (named : u.host ≠ none) :
    Url.Fits .query (requestTarget (rootedPath u.path) u.query) := by
  obtain ⟨rest, same, fits⟩ := exists_rootedPath h named
  have path : (rootedPath u.path).all Component.query.allows = true := by
    rw [same]
    exact List.all_eq_true.mpr fun c hc => allows_query (List.all_eq_true.mp fits.chars c hc)
  constructor
  · unfold requestTarget
    cases hq : u.query with
    | none => simpa using path
    | some q =>
      have mark : Component.query.allows '?' = true := by decide
      rw [List.all_append, path, Option.elim_some, List.all_cons, mark, (h.query q hq).chars]
      rfl
  · rw [requestTarget, escapesFit_append_elim (by decide) (by decide), same]
    exact ⟨fits.escapes, fun q hq => (h.query q hq).escapes⟩

/-- Two hexadecimal digits follow every percent sign of a text with complete escapes. -/
theorem exists_digits_of_escapesFit {before after : Text}
    (h : escapesFit (before ++ char '%' :: after) = true) :
    ∃ a b rest, after = a :: b :: rest ∧ isHexDigit a = true ∧ isHexDigit b = true := by
  fun_induction escapesFit before with
  | case1 =>
    rcases after with _ | ⟨a, _ | ⟨b, rest⟩⟩
    · cases h
    · cases h
    · simp only [List.nil_append, escapesFit_percent, Bool.and_eq_true] at h
      exact ⟨a, b, rest, rfl, h.1⟩
  | case2 a b s ih =>
    simp only [List.cons_append, escapesFit_percent, Bool.and_eq_true] at h
    exact ih h.2
  | case3 c s short ih =>
    by_cases hc : c = '%'
    · -- the percent sign itself is no digit of an escape that begins before it
      subst hc
      have digit : isHexDigit '%' = false := by decide
      rcases s with _ | ⟨a, _ | ⟨b, s⟩⟩
      · cases after with
        | nil => simp [escapesFit] at h
        | cons b after => simp [escapesFit_percent, digit] at h
      · simp [escapesFit_percent, digit] at h
      · exact absurd rfl (short a b s rfl)
    · rw [List.cons_append, escapesFit_cons hc] at h
      exact ih h

/-! ## Nothing breaks out -/

/-- No character of the texts ends a header or a request line, or delimits other parts there. -/
structure Target.Inert (t : Target) : Prop where
  hostHeader : t.hostHeader.all isVisible = true
  requestTarget : t.requestTarget.all isVisible = true
  userInfo : ∀ s ∈ t.userInfo, s.all isVisible = true
  host_delimiters : ∀ c ∈ "/?#@".toText, c ∉ t.hostHeader
  rooted : t.requestTarget.head? = some (char '/')
  target_delimiters : ∀ c ∈ "#[]".toText, c ∉ t.requestTarget
  escapes : ∀ before after, t.requestTarget = before ++ char '%' :: after →
    ∃ a b rest, after = a :: b :: rest ∧ isHexDigit a = true ∧ isHexDigit b = true
  user_delimiters : ∀ s ∈ t.userInfo, ∀ c ∈ "/?#@[]".toText, c ∉ s

theorem inert_of_normal {host : Text} (h : u.Normal) (named : u.host = some host) (secure : Bool)
    (socket : Socket) : ((u.endpoint secure host).target socket).Inert := by
  have form := h.host host named
  have some : u.host ≠ none := by simp [named]
  have fits := fits_requestTarget h some
  constructor
  case hostHeader =>
    exact all_hostHeader form.all_isVisible (by decide) (by decide)
      (fun c hc => isVisible_of_allows (allows_query hc)) _
  case requestTarget => exact all_isVisible_of_component fits.chars
  case userInfo => exact fun s hs => all_isVisible_of_component (h.userInfo s hs).chars
  case host_delimiters =>
    intro c hc
    have outside (d : CodePoint) (ends : endsAuthority d = true) : d ∉ host := fun mem =>
      List.any_eq_false.mp form.inside d mem ends
    have inHost : c ∉ host := by
      obtain rfl | rfl | rfl | rfl : c = '/' ∨ c = '?' ∨ c = '#' ∨ c = '@' := by
        simpa [String.toText] using hc
      · exact outside '/' rfl
      · exact outside '?' rfl
      · exact outside '#' rfl
      · exact form.host_at
    have others : "/?#@".toText.all
        (fun c => c != '[' && c != ']' && !Component.userInfo.allows c) = true := by decide
    have other := List.all_eq_true.mp others c hc
    simp only [Bool.and_eq_true, bne_iff_ne, Bool.not_eq_true'] at other
    exact not_mem_hostHeader inHost other.1.1 other.1.2 other.2 _
  case rooted =>
    obtain ⟨rest, same, -⟩ := exists_rootedPath h some
    simp [Endpoint.target, Url.endpoint, requestTarget, same]
  case target_delimiters =>
    intro c hc
    have delimiters : "#[]".toText.all (!Component.query.allows ·) = true := by decide
    exact not_mem_of_all fits.chars (by simpa using List.all_eq_true.mp delimiters c hc)
  case escapes =>
    intro before after whole
    have escapes := fits.escapes
    rw [show requestTarget _ _ = before ++ char '%' :: after from whole] at escapes
    exact exists_digits_of_escapesFit escapes
  case user_delimiters =>
    intro s hs c hc
    have delimiters : "/?#@[]".toText.all (!Component.userInfo.allows ·) = true := by decide
    exact not_mem_of_all (h.userInfo s hs).chars
      (by simpa using List.all_eq_true.mp delimiters c hc)

/-- **Nothing breaks out of the handshake.** Whatever text is resolved, or an object that says its
URL is some text or some bytes, no character of what is handed over for the handshake ends a header
or a request line, and every delimiter there is in its place. -/
theorem resolve_inert (names : encode.GivesNames) (textual : ∀ u, r ≠ .url u)
    (resolved : (resolve encode o r p).outcome = .ok t) : t.Inert := by
  obtain ⟨u, secure, host, socket, accepted, rfl⟩ := accepted_of_resolved resolved
  obtain ⟨s, parsed⟩ := Reference.exists_parse textual accepted.url
  exact inert_of_normal (Url.normal_of_parseWith names parsed) accepted.named secure socket

/-- A reference in Unicode to an address with a zone, which is resolved to visible characters. -/
theorem resolve_inert_zone :
    let r : Reference := .text "WSS://\u00E9:p@[FE80::1%25eth0]/\u00E4?%7b".toText
    let p : Environment :=
      { network := refusingFirst, platform := {}, logging := ⟨10, 30, [.listener]⟩ }
    (HostEncoding.asciiOnly.GivesNames ∧ ∀ u, r ≠ .url u) ∧
      ∃ t, (resolve .asciiOnly {} r p).outcome = .ok t ∧ t.Inert := by
  intro r p
  have names := HostEncoding.givesNames_asciiOnly
  have textual : ∀ u, r ≠ .url u := nofun
  cases result : (resolve .asciiOnly {} r p).outcome with
  | error e =>
    have done : (resolve .asciiOnly {} r p).outcome.toBool = true := by decide +kernel
    rw [result] at done
    cases done
  | ok t => exact ⟨⟨names, textual⟩, t, rfl, resolve_inert names textual result⟩

/-! ## Nothing is lost -/

theorem isSecure_of_lowered {scheme : Text} (lowered : scheme.map CodePoint.toLower = scheme)
    {secure : Bool} (h : isSecure (some scheme) = .ok secure) : scheme ∈ schemesFor secure := by
  rw [← lowered]
  exact isSecure_eq_ok_iff.mp h

theorem effectivePort_range (h : u.Normal) (secure : Bool) :
    0 ≤ effectivePort u.port secure ∧ effectivePort u.port secure ≤ 65535 ∧
      effectivePort u.port secure = u.port.getD (defaultPort secure) := by
  cases hp : u.port with
  | none => cases secure <;> simp [effectivePort, defaultPort]
  | some n =>
    have range := h.port n hp
    obtain ⟨m, rfl⟩ := Int.eq_ofNat_of_zero_le range.1
    exact ⟨range.1, range.2, rfl⟩

/-- The URL that the texts of the handshake say. -/
def Url.requested (u : Url) (port : Int) : Url :=
  { u with userInfo := none, port := some port, path := some (rootedPath u.path) }

theorem normal_requested (h : u.Normal) (named : u.host ≠ none) {port : Int}
    (range : 0 ≤ port ∧ port ≤ 65535) : (u.requested port).Normal where
  scheme := h.scheme
  userInfo := nofun
  host := h.host
  port n hn := Option.some.inj hn ▸ range
  path := by
    obtain ⟨rest, same, fits⟩ := exists_rootedPath h named
    refine ⟨rootedPath u.path, rfl, ?_, fun _ => Or.inr ?_⟩
    · rwa [same]
    · rw [same]
      rfl
  query := h.query

theorem toText_requested {scheme host : Text} (schemed : u.scheme = some scheme)
    (named : u.host = some host) (bracket : char '[' ∉ host) (port : Int) :
    (u.requested port).toText = scheme ++ "://".toText ++ hostHeader host (some port) ++
      requestTarget (rootedPath u.path) u.query := by
  have bare : host.head? ≠ some (char '[') := fun first => bracket (List.mem_of_mem_head? first)
  simp [Url.requested, Url.toText, Url.authority, schemed, named, hostHeader, bare, requestTarget,
    String.toText]

/-- **Nothing is lost on the way to the handshake.** A text, or an object that says its URL, that is
resolved to a host without an opening bracket gives a port in range, the one of the URL or else that
of its scheme, and the header and the request target are read back as the host, the port, the rooted
path and the query of the URL. -/
theorem resolve_lossless (names : encode.GivesNames) (textual : ∀ u, r ≠ .url u)
    (url : r.toUrl encode = .ok u)
    (bracket : ∀ host ∈ u.host, char '[' ∉ host)
    (resolved : (resolve encode o r p).outcome = .ok t) :
    (0 ≤ t.port ∧ t.port ≤ 65535) ∧
    ∃ scheme, u.scheme = some scheme ∧
      (scheme ∈ secureSchemes ∧ t.port = u.port.getD 443 ∨
        scheme ∈ plainSchemes ∧ t.port = u.port.getD 80) ∧
      Url.parseWith encode (scheme ++ "://".toText ++ t.hostHeader ++ t.requestTarget) = .ok {
        scheme := u.scheme
        userInfo := none
        host := u.host
        port := some t.port
        path := some (rootedPath u.path)
        query := u.query } := by
  obtain ⟨u', secure, host, socket, accepted, rfl⟩ := accepted_of_resolved resolved
  obtain rfl := Except.ok.inj (accepted.url.symm.trans url)
  obtain ⟨s, parsed⟩ := Reference.exists_parse textual url
  have normal := Url.normal_of_parseWith names parsed
  have named : u'.host ≠ none := by simp [accepted.named]
  have closed := bracket host accepted.named
  obtain ⟨low, high, port⟩ := effectivePort_range normal secure
  refine ⟨⟨low, high⟩, ?_⟩
  cases schemed : u'.scheme with
  | none =>
    have known := accepted.scheme
    rw [schemed] at known
    cases known
  | some scheme =>
    obtain ⟨-, lowered⟩ := normal.scheme scheme schemed
    have known := isSecure_of_lowered lowered (schemed ▸ accepted.scheme)
    refine ⟨scheme, rfl, ?_, ?_⟩
    · cases secure with
      | true => exact Or.inl ⟨known, port⟩
      | false => exact Or.inr ⟨known, port⟩
    · have back :
          Url.parseWith encode (u'.requested (effectivePort u'.port secure)).toText = .ok _ :=
        (normal_requested normal named ⟨low, high⟩).parseWith_toText accepted.named closed
      rw [toText_requested schemed accepted.named closed] at back
      rw [← schemed]
      exact back

/-- A literal of a later version with a colon, without a port or a path but with an empty query. -/
theorem resolve_lossless_future :
    let r : Reference := .locator (.ok (.text "WSS://u@[v1.A:b]?".toText))
    let u : Url := {
      scheme := some "wss".toText
      userInfo := some "u".toText
      host := some "v1.a:b".toText
      path := some []
      query := some [] }
    let p : Environment :=
      { network := refusingFirst, platform := {}, logging := ⟨10, 30, [.listener]⟩ }
    HostEncoding.asciiOnly.GivesNames ∧ (∀ u, r ≠ .url u) ∧ r.toUrl .asciiOnly = .ok u ∧
      (∀ host ∈ u.host, char '[' ∉ host) ∧
    ∃ t, (resolve .asciiOnly {} r p).outcome = .ok t ∧
      "wss".toText ++ "://".toText ++ t.hostHeader ++ t.requestTarget =
        "wss://[v1.a:b]:443/?".toText ∧
      Url.parseWith .asciiOnly "wss://[v1.a:b]:443/?".toText =
        .ok { u with userInfo := none, port := some 443, path := some "/".toText } := by
  intro r u p
  have names := HostEncoding.givesNames_asciiOnly
  have textual : ∀ u, r ≠ .url u := nofun
  have url : r.toUrl .asciiOnly = .ok u := toOption_eq_some.mp (by decide +kernel)
  have bracket : ∀ host ∈ u.host, char '[' ∉ host := by
    rintro host hh
    obtain rfl := Option.some.inj hh
    decide
  cases result : (resolve .asciiOnly {} r p).outcome with
  | error e =>
    have done : (resolve .asciiOnly {} r p).outcome.toBool = true := by decide +kernel
    rw [result] at done
    cases done
  | ok t =>
    obtain ⟨-, scheme, schemed, port, back⟩ := resolve_lossless names textual url bracket result
    obtain rfl : scheme = "wss".toText := (Option.some.inj schemed).symm
    have header : (resolve .asciiOnly {} r p).outcome.toOption.map Target.hostHeader =
        some "[v1.a:b]:443".toText := by decide +kernel
    have target : (resolve .asciiOnly {} r p).outcome.toOption.map Target.requestTarget =
        some "/?".toText := by decide +kernel
    rw [result] at header target
    have whole : "wss".toText ++ "://".toText ++ t.hostHeader ++ t.requestTarget =
        "wss://[v1.a:b]:443/?".toText := by
      rw [Option.some.inj header, Option.some.inj target]
      decide
    have default : t.port = 443 := by
      rcases port with ⟨-, port⟩ | ⟨plain, -⟩
      · exact port
      · exact absurd plain (by decide)
    rw [whole, default] at back
    exact ⟨names, textual, url, bracket, t, rfl, whole, back⟩

end Dialer
