import Dialer.Proofs.Uri.Printing

/-!
# Brackets inside literals

What the check of an address literal leaves free, the zone of an IPv6 address and the end of an
address of a later version, may hold an opening bracket, which then stands in the host.

* `BracketInside` lists these literals. They are the ones with a bracket that pass the check
  (`bracketInside_iff`).
* `strayBracket_iff` says that the hosts with a bracket that come out of parsing are the literals of
  this kind that have the form of hosts.
-/

namespace Dialer

open Uri Text

namespace Uri

open Host Unicode

/-! ## Literals -/

/-- A literal with an opening bracket inside. -/
inductive BracketInside : Text → Prop
  /-- In the zone of an IPv6 address. -/
  | zone {address zone : Text} (groups : isIPv6 address = true) (plain : char '%' ∉ address)
      (once : char '%' ∉ zone)
        (bracket : char '[' ∈ zone) : BracketInside (address ++ char '%' :: zone)
  /-- In an address of a later version. -/
  | future {version address : Text} (filled : version ≠ [])
      (digits : version.all isHexDigit = true) (bracket : char '[' ∈ address) :
      BracketInside (char 'v' :: (version ++ char '.' :: address))

variable {host : Text}

theorem BracketInside.mem (h : BracketInside host) : char '[' ∈ host := by
  cases h with
  | zone _ _ _ bracket => exact List.mem_append_right _ (List.mem_cons_of_mem _ bracket)
  | future _ _ bracket =>
    exact List.mem_cons_of_mem _ (List.mem_append_right _ (List.mem_cons_of_mem _ bracket))

/-- Such a literal passes its check. -/
theorem BracketInside.checked (h : BracketInside host) :
    Authority.checkBracketedHost host = .ok () := by
  rw [checkBracketedHost_eq_ok_iff]
  cases h with
  | @zone address zone groups plain once bracket =>
    have six : isIPv6 (address ++ char '%' :: zone) = true :=
      (isIPv6_zone_iff plain).mpr ⟨groups, List.ne_nil_of_mem bracket, once⟩
    have four : isIPv4 (address ++ char '%' :: zone) = false := by
      refine Bool.eq_false_iff.mpr fun four => ?_
      exact absurd (isIPv4_chars four (c := '%') (by simp)) (by decide)
    have other : (address ++ char '%' :: zone).head? ≠ some (char 'v') := fun head =>
      absurd (head?_of_isIPv6 six head) (by decide)
    rw [if_neg other]
    exact ⟨four, six⟩
  | future filled digits bracket =>
    rw [if_pos List.head?_cons]
    exact isFuture_iff.mpr ⟨_, _, rfl, filled, digits, List.ne_nil_of_mem bracket⟩

/-- **The literals with a bracket that pass** have it where the check leaves them free. -/
theorem bracketInside_iff :
    BracketInside host ↔ char '[' ∈ host ∧ Authority.checkBracketedHost host = .ok () := by
  refine ⟨fun h => ⟨h.mem, h.checked⟩, fun ⟨bracket, checked⟩ => ?_⟩
  rw [checkBracketedHost_eq_ok_iff] at checked
  split at checked
  next =>
    obtain ⟨version, address, rfl, filled, digits, -⟩ := isFuture_iff.mp checked
    have outside : char '[' ∉ version := not_mem_of_all digits (by decide)
    exact .future filled digits (by simpa [outside] using bracket)
  next =>
    rcases cut : cutFirst '%' host with ⟨address, zone⟩
    obtain ⟨rfl, plain⟩ := eq_of_cutFirst cut
    have outside : char '[' ∉ address := fun mem =>
      absurd (isIPv6_chars plain checked.2 mem) (by decide)
    cases zone with
    | none => exact absurd bracket (by simpa using outside)
    | some zone =>
      obtain ⟨groups, -, once⟩ := (isIPv6_zone_iff plain).mp checked.2
      exact .zone groups plain once (by simpa [outside] using bracket)

end Uri

namespace Url

variable {encode : HostEncoding} {s host : Text} {u : Url}

/-! ## Hosts that come out -/

/-- A host with a bracket has been written as a literal. -/
theorem CheckedAuthority.literal_of_bracket {authority : Text}
    (names : encode.GivesNames) (checked : CheckedAuthority authority)
    (encoded : (Authority.host authority).mapM (asciiHost encode) = .ok (some host))
    (bracket : char '[' ∈ host) : Authority.checkBracketedHost host = .ok () := by
  obtain ⟨a, well, rfl⟩ := checked.exists_pieces
  have parts := AuthorityPieces.hostPort_text well
  obtain ⟨-, ⟨rfl, ascii⟩ | name⟩ := mapM_asciiHost_eq_ok encoded
  · rw [parts] at bracket ascii ⊢
    rcases cut : cutFirst '%' a.host with ⟨name, zone⟩
    obtain ⟨whole, percent⟩ := eq_of_cutFirst cut
    rw [whole] at bracket ascii ⊢
    rw [lowerHost_eq_map percent ascii] at bracket ⊢
    have written := whole ▸ (mem_map_smallLetter_iff (by decide)).mp bracket
    cases literal : a.literal with
    | false => exact absurd written (well.bare literal).1
    | true => exact checkBracketedHost_map percent (whole ▸ well.literal literal)
  · exact absurd bracket (not_mem_of_all (names _ _ name).chars (by decide))

theorem checkBracketedHost_of_parseWith (names : encode.GivesNames)
    (parsed : parseWith encode s = .ok u) (named : u.host = some host) (bracket : char '[' ∈ host) :
    Authority.checkBracketedHost host = .ok () := by
  obtain ⟨p, _, _, -, rfl, -, -, authority, -, encoded, -, rfl⟩ := exists_pieces_of_parseWith parsed
  exact authority.literal_of_bracket names (encoded.trans (congrArg _ named)) bracket

/-- No parsed host begins with a bracket. -/
theorem head?_of_parseWith (names : encode.GivesNames) (parsed : parseWith encode s = .ok u)
    (named : u.host = some host) : host.head? ≠ some (char '[') := by
  intro head
  have checked := checkBracketedHost_of_parseWith names parsed named (List.mem_of_head? head)
  exact head?_of_checkBracketedHost checked head

/-! ## Literals are parsed -/

/-- The pieces of an authority that is a literal. -/
def literalAuthority (host : Text) : AuthorityPieces := ⟨none, true, host, none⟩

/-- The pieces of a URL that has a literal for its authority. -/
def literalPieces (host : Text) : Pieces where
  scheme := some "ws".toText
  authority := some (literalAuthority host).text
  path := []
  query := none
  fragment := none

theorem any_literalAuthority {p : CodePoint → Bool}
    (opening : p '[' = false) (closing : p ']' = false)
    (sign : p '@' = false) (colon : p ':' = false) (inHost : host.any p = false) :
    (literalAuthority host).text.any p = false :=
  (AuthorityPieces.any_text opening closing sign colon).mpr ⟨nofun, inHost, nofun⟩

section

variable (form : HostForm host)

include form

theorem delimited_literalPieces : (literalPieces host).Delimited := by
  have inside := any_literalAuthority (by decide) (by decide) (by decide) (by decide) form.inside
  refine ⟨⟨fun a ha => ?_, Or.inl rfl, List.not_mem_nil, List.not_mem_nil, nofun⟩, fun s hs => ?_,
    nofun⟩
  · obtain rfl := Option.some.inj ha
    simpa using inside
  · obtain rfl := Option.some.inj hs
    decide

theorem legal_literalPieces : (literalPieces host).text.any isIllegal = false := by
  refine (delimited_literalPieces form).legal_text (fun a ha => ?_) rfl nofun nofun
  obtain rfl := Option.some.inj ha
  exact any_literalAuthority (by decide) (by decide) (by decide) (by decide) form.legal

theorem escapesFit_literalPieces : escapesFit (literalPieces host).text = true := by
  refine (delimited_literalPieces form).escapesFit_text.mpr ⟨⟨fun a ha => ?_, rfl⟩, nofun, nofun⟩
  obtain rfl := Option.some.inj ha
  exact AuthorityPieces.escapesFit_text.mpr ⟨nofun, form.escapes, nofun⟩

variable (literal : Authority.checkBracketedHost host = .ok ())

include literal

theorem wellFormed_literalAuthority : (literalAuthority host).WellFormed :=
  ⟨nofun, form.host_at, form.host_closing, nofun, fun _ => literal, nofun⟩

theorem split_literalPieces :
    Parts.split (literalPieces host).text = .ok (literalPieces host).parts := by
  have brackets := AuthorityPieces.checkBrackets_text (wellFormed_literalAuthority form literal)
  have plain := any_literalAuthority (by decide) (by decide) (by decide) (by decide)
    (any_disguisesDelimiter form.ascii)
  have disguise := checkDisguise_of_plain plain
  have authority : (literalPieces host).parts.authority = (literalAuthority host).text := rfl
  rw [(delimited_literalPieces form).split_text (legal_literalPieces form), authority, brackets,
    disguise]
  rfl

/-- **A literal is parsed** if it has the form of a host. -/
theorem parseWith_literal : parseWith encode ("ws://[".toText ++ host ++ [char ']']) = .ok {
    scheme := some "ws".toText
    host := some host
    path := some [] } := by
  have well := wellFormed_literalAuthority form literal
  have parts := AuthorityPieces.hostPort_text well
  have user : Authority.userInfo (literalAuthority host).text = none :=
    AuthorityPieces.userInfo_text well
  have port : Authority.port (literalAuthority host).text = .ok none := by
    rw [Authority.port, parts]
    rfl
  have named : (Authority.host (literalAuthority host).text).mapM (asciiHost encode) =
      .ok (some host) := form.host_of_written (congrArg Prod.fst parts)
  have query : hasQuery (literalPieces host).text = false :=
    (delimited_literalPieces form).hasQuery_text
  have whole : "ws://[".toText ++ host ++ [char ']'] = (literalPieces host).text := by
    simp [literalPieces, literalAuthority, Pieces.text, Pieces.hierText, Pieces.endText,
      AuthorityPieces.text, AuthorityPieces.hostPortText, AuthorityPieces.hostText, String.toText]
  rw [whole]
  refine parseWith_eq_ok_iff.mpr ⟨legal_literalPieces form, escapesFit_literalPieces form,
    (literalPieces host).parts, none, some host, split_literalPieces form literal, port, named,
    ⟨fun t ht => ?_, ⟨rfl, rfl⟩, fun _ => ⟨rfl, rfl⟩, ⟨rfl, rfl⟩⟩, ?_⟩
  · cases user.symm.trans ht
  · rw [ofParts, show Authority.userInfo (literalPieces host).parts.authority = none from user,
      query]
    rfl

end

/-- **The hosts with a bracket that come out of parsing** are the literals that have one inside, for
any encoding of hosts into domain names. -/
theorem strayBracket_iff (names : encode.GivesNames) (h : Text) :
    (∃ s u, parseWith encode s = .ok u ∧ u.host = some h ∧ (char '[' ∈ h ∨ char ']' ∈ h)) ↔
      HostForm h ∧ BracketInside h := by
  constructor
  · rintro ⟨s, u, parsed, named, bracket⟩
    have form := (normal_of_parseWith names parsed).host h named
    have opening : char '[' ∈ h := bracket.resolve_right form.host_closing
    have checked := checkBracketedHost_of_parseWith names parsed named opening
    exact ⟨form, bracketInside_iff.mpr ⟨opening, checked⟩⟩
  · rintro ⟨form, inside⟩
    exact ⟨_, _, parseWith_literal form inside.checked, rfl, Or.inl inside.mem⟩

/-- The hosts that come out when no name is encoded. -/
theorem strayBracket_iff_asciiOnly : HostEncoding.asciiOnly.GivesNames ∧
    ((∃ s u, parseWith .asciiOnly s = .ok u ∧ u.host = some "v1.[x".toText ∧
        (char '[' ∈ "v1.[x".toText ∨ char ']' ∈ "v1.[x".toText)) ↔
      HostForm "v1.[x".toText ∧ BracketInside "v1.[x".toText) :=
  ⟨HostEncoding.givesNames_asciiOnly, strayBracket_iff HostEncoding.givesNames_asciiOnly _⟩

/-- A bracket in the zone of an address. -/
theorem parse_strayBracket :
    let s : Text := "ws://[fe80::1%25[x]/chat".toText
    let u : Url := {
      scheme := some "ws".toText
      host := some "fe80::1%25[x".toText
      path := some "/chat".toText }
    parseWith .asciiOnly s = .ok u ∧ char '[' ∈ "fe80::1%25[x".toText := by
  intro s u
  exact ⟨toOption_eq_some.mp (by decide +kernel), by decide⟩

end Url

end Dialer
