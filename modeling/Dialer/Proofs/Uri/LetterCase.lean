import Dialer.Proofs.Uri.Acceptance
import Dialer.Proofs.Uri.NormalForm

/-!
# Letter case

Capitals and small letters are the same in a scheme and in a registered name, outside of escapes.

* `foldedName` puts the letters of a name in lower case, but for those of escapes, and
  `Pieces.folded` those of a text in which the case of a letter should not matter.
* `parseWith_folded` says that folding a text before it is parsed is folding the host afterwards.
* `parse_letterCase` compares two texts that differ in such letters, `SameUpToCase`: both are parsed
  or neither is, and they have the same URL exactly if their hosts agree from the first `%` on.
-/

namespace Dialer

open Uri Text

namespace Text

theorem isHexDigit_toLower (c : CodePoint) : isHexDigit c.toLower = isHexDigit c := by
  rcases Nat.lt_or_ge c.toNat 128 with small | large
  · exact of_decide_eq_true
      (of_ascii (p := fun c => isHexDigit c.toLower = isHexDigit c) (by decide +kernel) small)
  · rw [toLower_of_not_ascii large]

end Text

namespace Uri

variable {s t : Text}

/-- The text is ASCII and has no brackets. -/
structure Bracketless (s : Text) : Prop where
  ascii : s.isAscii = true
  opening : char '[' ∉ s
  closing : char ']' ∉ s

theorem Bracketless.of_map_toLower (h : Bracketless s)
    (same : s.map CodePoint.toLower = t.map CodePoint.toLower) : Bracketless t where
  ascii := by
    rw [← isAscii_map_toLower, ← same, isAscii_map_toLower]
    exact h.ascii
  opening mem := h.opening ((mem_iff_of_map_toLower (by decide) same).mpr mem)
  closing mem := h.closing ((mem_iff_of_map_toLower (by decide) same).mpr mem)

theorem Bracketless.of_subset (h : Bracketless s) (subset : t ⊆ s) : Bracketless t where
  ascii := all_of_subset h.ascii subset
  opening mem := h.opening (subset mem)
  closing mem := h.closing (subset mem)

/-- Escapes are complete in one letter case when they are in another. -/
theorem escapesFit_map_toLower (s : Text) :
    escapesFit (s.map CodePoint.toLower) = escapesFit s := by
  fun_induction escapesFit s with
  | case1 => rfl
  | case2 a b s ih =>
    have percent : (char '%').toLower = char '%' := rfl
    rw [List.map_cons, List.map_cons, List.map_cons, percent, escapesFit_percent,
      isHexDigit_toLower, isHexDigit_toLower, ih]
  | case3 c s short ih =>
    by_cases hc : c = '%'
    · -- too little is left for an escape
      subst hc
      rcases s with _ | ⟨a, _ | ⟨b, s⟩⟩
      · rfl
      · rfl
      · exact absurd rfl (short a b s rfl)
    · have kept : c.toLower ≠ '%' := fun lower => hc ((toLower_eq_iff (by decide)).mp lower)
      rw [List.map_cons, escapesFit_cons kept, ih, bne_iff_ne.mpr hc, Bool.true_and]

/-! ## Names -/

/-- The name with its letters in lower case, but for those of escapes. -/
def foldedName : Text → Text
  | [] => []
  | char '%' :: a :: b :: s =>
    if isHexDigit a && isHexDigit b then char '%' :: a :: b :: foldedName s
    else char '%' :: foldedName (a :: b :: s)
  | c :: s => c.toLower :: foldedName s

theorem foldedName_cons {c : CodePoint} (h : c ≠ '%') (s : Text) :
    foldedName (c :: s) = c.toLower :: foldedName s := by
  rw [foldedName]
  rintro a b t rfl
  exact absurd rfl h

theorem exists_foldedName_percent (s : Text) : ∃ t, foldedName (char '%' :: s) = char '%' :: t := by
  rcases s with _ | ⟨a, _ | ⟨b, s⟩⟩
  · exact ⟨_, rfl⟩
  · exact ⟨_, rfl⟩
  · rw [foldedName]
    split
    · exact ⟨_, rfl⟩
    · exact ⟨_, rfl⟩

theorem map_toLower_foldedName (s : Text) :
    (foldedName s).map CodePoint.toLower = s.map CodePoint.toLower := by
  fun_induction foldedName s with
  | case1 => rfl
  | case2 a b s _ ih => simp only [List.map_cons, ih]
  | case3 a b s _ ih => rw [List.map_cons, List.map_cons, ih]
  | case4 c s _ ih => rw [List.map_cons, List.map_cons, ih, toLower_toLower]

theorem foldedName_eq_nil_iff : foldedName s = [] ↔ s = [] := by
  rw [← List.map_eq_nil_iff (f := CodePoint.toLower), map_toLower_foldedName, List.map_eq_nil_iff]

theorem foldedName_append {name : Text} (h : char '%' ∉ name) (rest : Text) :
    foldedName (name ++ rest) = name.map CodePoint.toLower ++ foldedName rest := by
  induction name with
  | nil => rfl
  | cons c name ih =>
    rw [List.cons_append, foldedName_cons (List.ne_of_not_mem_cons h).symm,
      ih (List.not_mem_of_not_mem_cons h)]
    rfl

/-- Up to the first escape all letters are put in lower case. -/
theorem takeWhile_foldedName (s : Text) :
    (foldedName s).takeWhile (· ≠ char '%') =
      (s.takeWhile (· ≠ char '%')).map CodePoint.toLower := by
  induction s with
  | nil => rfl
  | cons c s ih =>
    by_cases hc : c = '%'
    · subst hc
      obtain ⟨t, ht⟩ := exists_foldedName_percent s
      rw [ht]
      rfl
    · have kept : c.toLower ≠ '%' := fun lower => hc ((toLower_eq_iff (by decide)).mp lower)
      rw [foldedName_cons hc, List.takeWhile_cons_of_pos (by simpa using kept), ih,
        List.takeWhile_cons_of_pos (by simpa using hc)]
      rfl

theorem percent_not_mem_takeWhile (s : Text) : char '%' ∉ s.takeWhile (· ≠ char '%') := by
  intro mem
  have other := List.mem_takeWhile_imp mem
  simp at other

namespace Grammar

/-- Lower case up to the first escape is part of the folding. -/
theorem foldedName_loweredName (s : Text) : foldedName (loweredName s) = foldedName s := by
  have small : char '%' ∉ (s.takeWhile (· ≠ char '%')).map CodePoint.toLower :=
    fun mem => percent_not_mem_takeWhile s
      ((mem_iff_of_map_toLower (by decide) (toLower_map_toLower _)).mp mem)
  calc foldedName (loweredName s)
      = ((s.takeWhile (· ≠ char '%')).map CodePoint.toLower).map CodePoint.toLower ++
          foldedName (s.dropWhile (· ≠ char '%')) := foldedName_append small _
    _ = (s.takeWhile (· ≠ char '%')).map CodePoint.toLower ++
      foldedName (s.dropWhile (· ≠ char '%')) := by
        rw [toLower_map_toLower]
    _ = foldedName (s.takeWhile (· ≠ char '%') ++ s.dropWhile (· ≠ char '%')) :=
        (foldedName_append (percent_not_mem_takeWhile s) _).symm
    _ = foldedName s := by rw [List.takeWhile_append_dropWhile]

theorem loweredName_eq (s : Text) :
    loweredName s = (foldedName s).takeWhile (· ≠ char '%') ++ s.dropWhile (· ≠ char '%') := by
  rw [takeWhile_foldedName]
  rfl

theorem loweredName_foldedName (s : Text) : loweredName (foldedName s) = foldedName s := by
  rw [loweredName, takeWhile_foldedName, toLower_map_toLower, ← takeWhile_foldedName,
    List.takeWhile_append_dropWhile]

/-- Names that fold to the same text are the same in lower case up to their first escapes exactly
if they agree from there on. -/
theorem loweredName_eq_iff {s t : Text} (same : foldedName s = foldedName t) :
    loweredName s = loweredName t ↔ s.dropWhile (· ≠ char '%') = t.dropWhile (· ≠ char '%') := by
  rw [loweredName_eq s, loweredName_eq t, same, List.append_right_inj]

/-! ## Authorities -/

/-- The authority with its host folded. -/
def AuthorityDerivation.folded (a : AuthorityDerivation) : AuthorityDerivation :=
  { a with host := foldedName a.host }

namespace AuthorityDerivation

variable {a : AuthorityDerivation}

theorem host_subset (a : AuthorityDerivation) : a.host ⊆ a.text := by
  intro c hc
  simp [text, hc]

theorem map_toLower_folded (a : AuthorityDerivation) :
    a.folded.text.map CodePoint.toLower = a.text.map CodePoint.toLower := by
  simp only [text, folded, List.map_append, map_toLower_foldedName]

theorem mem_folded_host_iff {c : CodePoint} (h : c.isAlpha = false) :
    c ∈ a.folded.host ↔ c ∈ a.host :=
  mem_iff_of_map_toLower h (map_toLower_foldedName a.host)

theorem Delimited.folded (h : a.Delimited) : a.folded.Delimited where
  host_at := by
    rw [mem_folded_host_iff (by decide)]
    exact h.host_at
  host_colon := by
    rw [mem_folded_host_iff (by decide)]
    exact h.host_colon
  port_at := h.port_at
  inside := by
    have ends : a.folded.text.any endsAuthority = a.text.any endsAuthority :=
      any_of_map_toLower (apply_toLower fun c hc => (endsAuthority_ascii hc).2)
        (map_toLower_folded a)
    rw [← List.not_any_eq_all_not, ends, List.not_any_eq_all_not]
    exact h.inside

theorem hostName_folded (a : AuthorityDerivation) :
    a.folded.hostName = a.hostName.map foldedName := by
  by_cases empty : a.host = []
  · have none : a.hostName = none := if_pos empty
    rw [none]
    exact if_pos (foldedName_eq_nil_iff.mpr empty)
  · have some : a.hostName = some (loweredName a.host) := if_neg empty
    have filled : ¬ a.folded.host = [] := fun folded => empty (foldedName_eq_nil_iff.mp folded)
    rw [some, Option.map_some, foldedName_loweredName, ← loweredName_foldedName]
    exact if_neg filled

end AuthorityDerivation

/-- The authority with its host folded. -/
def foldedAuthority (authority : Text) : Text :=
  let (userInfo, rest) := cutLast '@' authority
  let (host, port) := cutFirst ':' rest
  AuthorityDerivation.text ⟨userInfo, foldedName host, port⟩

theorem foldedAuthority_text {a : AuthorityDerivation} (h : a.Delimited) :
    foldedAuthority a.text = a.folded.text := by
  have port : cutFirst ':' a.hostPortText = (a.host, a.port) :=
    cutFirst_append_elim h.host_colon a.port
  rw [foldedAuthority, AuthorityDerivation.cutLast_text h]
  simp only [port]
  rfl

section

variable {authority : Text}

/-- Folding the host of an authority without brackets folds the host that is found in it and leaves
the other parts as they are. -/
theorem parts_foldedAuthority (inside : authority.all (!endsAuthority ·) = true)
    (plain : Bracketless authority) :
    Authority.userInfo (foldedAuthority authority) = Authority.userInfo authority ∧
    Authority.port (foldedAuthority authority) = Authority.port authority ∧
    Authority.host (foldedAuthority authority) = (Authority.host authority).map foldedName := by
  obtain ⟨a, delimited, rfl⟩ := AuthorityDerivation.exists_delimited inside
  have plain' : Bracketless a.folded.text :=
    plain.of_map_toLower (AuthorityDerivation.map_toLower_folded a).symm
  have hostPort := AuthorityDerivation.hostPort_text delimited plain.opening
  have hostPort' := AuthorityDerivation.hostPort_text delimited.folded plain'.opening
  rw [foldedAuthority_text delimited]
  refine ⟨?_, ?_, ?_⟩
  · rw [AuthorityDerivation.userInfo_text delimited,
      AuthorityDerivation.userInfo_text delimited.folded]
    rfl
  · rw [Authority.port, Authority.port, hostPort, hostPort']
    rfl
  · rw [AuthorityDerivation.host_text delimited plain.opening
        (all_of_subset plain.ascii (AuthorityDerivation.host_subset a)),
      AuthorityDerivation.host_text delimited.folded plain'.opening
        (all_of_subset plain'.ascii (AuthorityDerivation.host_subset a.folded)),
      AuthorityDerivation.hostName_folded]

/-- The host that is found in an ASCII authority is ASCII. -/
theorem isAscii_of_host {h : Text} (inside : authority.all (!endsAuthority ·) = true)
    (plain : Bracketless authority) (named : Authority.host authority = some h) :
    h.isAscii = true := by
  obtain ⟨a, delimited, rfl⟩ := AuthorityDerivation.exists_delimited inside
  have small : a.host.isAscii = true :=
    all_of_subset plain.ascii (AuthorityDerivation.host_subset a)
  rw [AuthorityDerivation.host_text delimited plain.opening small,
    AuthorityDerivation.hostName] at named
  split at named
  · cases named
  · rw [← Option.some.inj named]
    exact isAscii_loweredName small

/-- Neither host needs encoding. -/
theorem mapM_asciiHost_folded {encode : HostEncoding}
    (inside : authority.all (!endsAuthority ·) = true) (plain : Bracketless authority) :
    (Authority.host (foldedAuthority authority)).mapM (Url.asciiHost encode) =
      Option.map foldedName <$> (Authority.host authority).mapM (Url.asciiHost encode) := by
  have small : ∀ h ∈ Authority.host authority, h.isAscii = true := by
    intro h named
    exact isAscii_of_host inside plain named
  have small' : ∀ h ∈ (Authority.host authority).map foldedName, h.isAscii = true := by
    intro h named
    obtain ⟨name, found, rfl⟩ := Option.map_eq_some_iff.mp named
    rw [← isAscii_map_toLower, map_toLower_foldedName, isAscii_map_toLower]
    exact small name found
  obtain ⟨-, -, host⟩ := parts_foldedAuthority inside plain
  rw [host, Url.mapM_asciiHost_of_isAscii small, Url.mapM_asciiHost_of_isAscii small']
  rfl

end

end Grammar

/-! ## Texts -/

namespace Pieces

open Grammar

/-- The pieces with the scheme in lower case and the host folded. -/
def folded (p : Pieces) : Pieces :=
  { p with
    scheme := p.scheme.map (·.map CodePoint.toLower)
    authority := p.authority.map foldedAuthority }

variable {p : Pieces}

theorem map_toLower_folded (h : p.Delimited) :
    p.folded.text.map CodePoint.toLower = p.text.map CodePoint.toLower := by
  have scheme : (p.folded.scheme.elim [] (· ++ [char ':'])).map CodePoint.toLower =
      (p.scheme.elim [] (· ++ [char ':'])).map CodePoint.toLower := by
    cases hs : p.scheme with
    | none => simp [folded, hs]
    | some s =>
      simp only [folded, hs, Option.map_some, Option.elim_some, List.map_append,
        toLower_map_toLower]
  have hier : p.folded.hierText.map CodePoint.toLower = p.hierText.map CodePoint.toLower := by
    cases ha : p.authority with
    | none => simp [hierText, folded, ha]
    | some authority =>
      obtain ⟨a, delimited, rfl⟩ := AuthorityDerivation.exists_delimited (h.authority authority ha)
      simp only [hierText, folded, ha, Option.map_some, Option.elim_some, List.map_append,
        List.map_cons, foldedAuthority_text delimited, AuthorityDerivation.map_toLower_folded]
  rw [text, text, List.map_append, List.map_append, List.map_append, List.map_append, scheme, hier]
  rfl

/-- Without a scheme and an authority there is nothing to fold. -/
theorem folded_eq_self (scheme : p.scheme = none) (authority : p.authority = none) :
    p.folded = p := by
  obtain ⟨s, a, path, query, fragment⟩ := p
  obtain rfl : s = none := scheme
  obtain rfl : a = none := authority
  rfl

theorem Delimited.folded (h : p.Delimited) : p.folded.Delimited where
  authority := by
    intro t ht
    obtain ⟨authority, ha, rfl⟩ := Option.map_eq_some_iff.mp ht
    obtain ⟨a, delimited, rfl⟩ := AuthorityDerivation.exists_delimited (h.authority authority ha)
    rw [foldedAuthority_text delimited]
    exact delimited.folded.inside
  path := by
    have begins := h.path
    cases ha : p.authority with
    | none => simpa [Pieces.folded, PathBegins, ha] using begins
    | some a => simpa [Pieces.folded, PathBegins, ha] using begins
  path_query := h.path_query
  path_fragment := h.path_fragment
  query_fragment := h.query_fragment
  scheme := by
    intro t ht
    obtain ⟨s, hs, rfl⟩ := Option.map_eq_some_iff.mp ht
    rw [isScheme_map_toLower]
    exact h.scheme s hs
  unschemed := by
    intro none
    have unschemed : p.scheme = Option.none := Option.map_eq_none_iff.mp none
    cases ha : p.authority with
    | none =>
      rw [folded_eq_self unschemed ha]
      exact h.unschemed unschemed
    | some a =>
      have slash : ∃ t, p.folded.text = char '/' :: t := by
        simp [Pieces.folded, Pieces.text, hierText, unschemed, ha]
      obtain ⟨t, ht⟩ := slash
      rw [ht, cutScheme_slash]

theorem parts_folded (p : Pieces) : p.folded.parts =
    ⟨p.parts.scheme, foldedAuthority p.parts.authority, p.path, p.parts.query,
      p.parts.fragment⟩ := by
  have scheme : p.folded.parts.scheme = p.parts.scheme := by
    cases hs : p.scheme with
    | none => simp [parts, folded, hs]
    | some s =>
      simp only [parts, folded, hs]
      exact toLower_map_toLower s
  have authority : p.folded.parts.authority = foldedAuthority p.parts.authority := by
    cases ha : p.authority with
    | none =>
      simp only [parts, folded, ha]
      rfl
    | some a => simp [parts, folded, ha]
  rw [← scheme, ← authority]
  rfl

end Pieces

end Uri

/-! ## URLs -/

namespace Url

open Grammar

/-- The URL with its host folded. -/
def folded (u : Url) : Url := { u with host := u.host.map foldedName }

variable {encode : HostEncoding} {p q : Pieces} {u v : Url}

/-- **Folding before parsing is folding afterwards**, for ASCII texts without brackets. -/
theorem parseWith_folded (h : p.Delimited) (plain : Bracketless p.text) :
    parseWith encode p.folded.text = (parseWith encode p.text).map folded := by
  change _ = folded <$> parseWith encode p.text
  have same : p.folded.text.map CodePoint.toLower = p.text.map CodePoint.toLower :=
    Pieces.map_toLower_folded h
  have plain' : Bracketless p.folded.text := plain.of_map_toLower same.symm
  have legal : p.folded.text.any isIllegal = p.text.any isIllegal :=
    any_of_map_toLower (apply_toLower fun c hc => (isIllegal_ascii hc).2) same
  have fits : escapesFit p.folded.text = escapesFit p.text := by
    rw [← escapesFit_map_toLower, same, escapesFit_map_toLower]
  have query : hasQuery p.folded.text = hasQuery p.text :=
    h.folded.hasQuery_text.trans h.hasQuery_text.symm
  have inside := Pieces.parts_authority_inside h.toParted
  have authority : Bracketless p.parts.authority := plain.of_subset Pieces.parts_authority_subset
  obtain ⟨userInfo, port, -⟩ := parts_foldedAuthority inside authority
  cases lawful : p.text.any isIllegal with
  | true =>
    rw [parseWith, parseWith, legal, lawful]
    rfl
  | false =>
    cases complete : escapesFit p.text with
    | false =>
      rw [parseWith, parseWith, legal, lawful, fits, complete]
      rfl
    | true =>
      have split := h.split_text_of_isAscii lawful plain.ascii plain.opening plain.closing
      have split' := h.folded.split_text_of_isAscii (legal.trans lawful) plain'.ascii
        plain'.opening plain'.closing
      rw [Pieces.parts_folded] at split'
      rw [parseWith_of_split lawful complete split,
        parseWith_of_split (legal.trans lawful) (fits.trans complete) split']
      simp only [checkParts, ofParts, userInfo, port, query, mapM_asciiHost_folded inside authority,
        map_bind, bind_map_left, bind_assoc]
      rfl

/-- An ASCII text without brackets has no host to encode. -/
theorem normal_of_bracketless {s : Text} (plain : Bracketless s)
    (parsed : parseWith encode s = .ok u) :
    u.Normal := by
  refine normal_of_unencoded parsed fun parts split h named => ?_
  obtain ⟨legal, -⟩ := parseWith_eq_ok_iff.mp parsed
  obtain ⟨p, delimited, rfl⟩ := Pieces.exists_pieces s
  obtain ⟨rfl, -⟩ := delimited.eq_of_split legal split
  exact isAscii_of_host (Pieces.parts_authority_inside delimited.toParted)
    (plain.of_subset Pieces.parts_authority_subset) named

/-! ## Two texts -/

/-- The texts differ at most in the letter case of their schemes and of their hosts outside of
escapes. -/
def SameUpToCase (s t : Text) : Prop :=
  ∃ p q : Pieces, p.Delimited ∧ q.Delimited ∧ p.text = s ∧ q.text = t ∧ p.folded = q.folded

variable {s t : Text}

theorem SameUpToCase.map_toLower (h : SameUpToCase s t) :
    s.map CodePoint.toLower = t.map CodePoint.toLower := by
  obtain ⟨p, q, hp, hq, rfl, rfl, same⟩ := h
  rw [← Pieces.map_toLower_folded hp, same, Pieces.map_toLower_folded hq]

/-- The pieces of a text with a scheme, an authority and a path. -/
def chatPieces (scheme authority : Text) : Pieces where
  scheme := some scheme
  authority := some authority
  path := "/chat".toText
  query := none
  fragment := none

section

variable {scheme scheme' authority authority' : Text}

theorem delimited_chatPieces (valid : isScheme scheme = true)
    (inside : authority.all (!endsAuthority ·) = true) :
    (chatPieces scheme authority).Delimited where
  authority := by
    intro a ha
    obtain rfl := Option.some.inj ha
    exact inside
  path := Or.inr rfl
  path_query := show char '?' ∉ "/chat".toText by decide
  path_fragment := show char '#' ∉ "/chat".toText by decide
  query_fragment := nofun
  scheme := by
    intro s hs
    obtain rfl := Option.some.inj hs
    exact valid
  unschemed := nofun

theorem sameUpToCase_chatPieces (valid : isScheme scheme = true) (valid' : isScheme scheme' = true)
    (inside : authority.all (!endsAuthority ·) = true)
    (inside' : authority'.all (!endsAuthority ·) = true)
    (schemes : scheme.map CodePoint.toLower = scheme'.map CodePoint.toLower)
    (hosts : foldedAuthority authority = foldedAuthority authority') :
    SameUpToCase (chatPieces scheme authority).text (chatPieces scheme' authority').text := by
  refine ⟨_, _, delimited_chatPieces valid inside, delimited_chatPieces valid' inside', rfl, rfl,
    ?_⟩
  simp only [Pieces.folded, chatPieces, Option.map_some, schemes, hosts]

end

/-- Texts that differ in letter case only come out the same once the hosts are folded. -/
theorem map_folded_parse (h : SameUpToCase s t) (plain : Bracketless s) :
    (parseWith encode s).map folded = (parseWith encode t).map folded := by
  have plain' : Bracketless t := plain.of_map_toLower h.map_toLower
  obtain ⟨p, q, hp, hq, rfl, rfl, same⟩ := h
  rw [← parseWith_folded hp plain, same, parseWith_folded hq plain']

/-- The host of a URL, unfolded, is told by what follows its first `%`. -/
theorem host_eq_of_folded (hu : u.Normal) (hv : v.Normal) (same : u.folded = v.folded)
    (tails : u.host.map (·.dropWhile (· ≠ char '%')) = v.host.map (·.dropWhile (· ≠ char '%'))) :
    u.host = v.host := by
  have hosts : u.host.map foldedName = v.host.map foldedName := congrArg Url.host same
  have lowered {w : Url} (normal : w.Normal) {h : Text} (named : w.host = some h) :
      loweredName h = h := by
    have form := normal.host h named
    rw [← lowerHost_eq_loweredName form.ascii, form.lowered]
  cases first : u.host with
  | none =>
    rw [first] at hosts
    exact (Option.map_eq_none_iff.mp hosts.symm).symm
  | some h =>
    rw [first] at hosts tails
    obtain ⟨k, second, folds⟩ := Option.map_eq_some_iff.mp hosts.symm
    rw [second] at tails
    have agree : loweredName h = loweredName k :=
      (loweredName_eq_iff folds.symm).mpr (Option.some.inj tails)
    rw [second, ← lowered hu first, ← lowered hv second, agree]

theorem eq_iff_of_folded (hu : u.Normal) (hv : v.Normal) (same : u.folded = v.folded) :
    u = v ↔ u.host.map (·.dropWhile (· ≠ char '%')) = v.host.map (·.dropWhile (· ≠ char '%')) := by
  constructor
  · rintro rfl
    rfl
  · intro tails
    have hosts : u.host = v.host := host_eq_of_folded hu hv same tails
    calc u = { u.folded with host := u.host } := rfl
      _ = { v.folded with host := v.host } := by rw [same, hosts]
      _ = v := rfl

/-- **Letter case matters behind the first escape of a host only.** Of two ASCII texts without
brackets that differ at most in the case of their schemes and hosts, both are parsed or neither is.
The URLs are the same exactly if the hosts agree from the first `%` on. -/
theorem parse_letterCase (h : SameUpToCase s t) (plain : Bracketless s) :
    ((∃ u, parseWith encode s = .ok u) ↔ ∃ v, parseWith encode t = .ok v) ∧
    ∀ u v, parseWith encode s = .ok u → parseWith encode t = .ok v → u.folded = v.folded ∧
      (u = v ↔ u.host.map (·.dropWhile (· ≠ char '%')) =
        v.host.map (·.dropWhile (· ≠ char '%'))) := by
  have same : (parseWith encode s).map folded = (parseWith encode t).map folded :=
    map_folded_parse h plain
  have plain' : Bracketless t := plain.of_map_toLower h.map_toLower
  constructor
  · rw [← exists_map_eq_ok (g := folded), same, exists_map_eq_ok]
  · intro u v first second
    rw [first, second] at same
    have folds : u.folded = v.folded := Except.ok.inj same
    exact ⟨folds,
      eq_iff_of_folded (normal_of_bracketless plain first)
        (normal_of_bracketless plain' second) folds⟩

/-- The scheme and the host in capitals up to an escape, behind which they are the same. -/
theorem parse_letterCase_capitals :
    let s : Text := "WS://U@A%2dB:80/chat".toText
    let t : Text := "ws://U@a%2dB:80/chat".toText
    let u : Url := {
      scheme := some "ws".toText
      userInfo := some "U".toText
      host := some "a%2dB".toText
      port := some 80
      path := some "/chat".toText }
    (SameUpToCase s t ∧ Bracketless s) ∧
      parseWith .asciiOnly s = .ok u ∧ ∃ v, parseWith .asciiOnly t = .ok v ∧
        u.folded = v.folded := by
  intro s t u
  have same : SameUpToCase s t := by
    have capitals : s = (chatPieces "WS".toText "U@A%2dB:80".toText).text := by decide
    have small : t = (chatPieces "ws".toText "U@a%2dB:80".toText).text := by decide
    rw [capitals, small]
    exact sameUpToCase_chatPieces (by decide) (by decide) (by decide) (by decide) (by decide)
      (by decide +kernel)
  have plain : Bracketless s := ⟨by decide, by decide, by decide⟩
  have parsed : parseWith .asciiOnly s = .ok u := toOption_eq_some.mp (by decide +kernel)
  obtain ⟨both, equal⟩ := parse_letterCase same plain
  obtain ⟨v, parsed'⟩ := both.mp ⟨u, parsed⟩
  exact ⟨⟨same, plain⟩, parsed, v, parsed', (equal u v parsed parsed').1⟩

/-- A capital behind an escape of the host. -/
theorem parse_capitalBehindEscape :
    let s : Text := "ws://a%2DB/chat".toText
    let t : Text := "ws://a%2Db/chat".toText
    let u : Url := {
      scheme := some "ws".toText
      host := some "a%2DB".toText
      path := some "/chat".toText }
    (SameUpToCase s t ∧ Bracketless s) ∧
      parseWith .asciiOnly s = .ok u ∧
        parseWith .asciiOnly t = .ok { u with host := some "a%2Db".toText } ∧
      u ≠ { u with host := some "a%2Db".toText } := by
  intro s t u
  have same : SameUpToCase s t := by
    have capital : s = (chatPieces "ws".toText "a%2DB".toText).text := by decide
    have small : t = (chatPieces "ws".toText "a%2Db".toText).text := by decide
    rw [capital, small]
    exact sameUpToCase_chatPieces (by decide) (by decide) (by decide) (by decide) (by decide)
      (by decide +kernel)
  have first : parseWith .asciiOnly s = .ok u := toOption_eq_some.mp (by decide +kernel)
  have second : parseWith .asciiOnly t = .ok { u with host := some "a%2Db".toText } :=
    toOption_eq_some.mp (by decide +kernel)
  exact ⟨⟨same, ⟨by decide, by decide, by decide⟩⟩, first, second, by decide⟩

end Url

end Dialer
