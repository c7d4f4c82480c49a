import Dialer.Proofs.Uri.Pieces

/-!
# Splitting at delimiters

The parts of a text by the grammar and the parts that splitting finds are the same, whether or not
the parts follow their rules: it is enough that the delimiters stand where they part them.

* `Derivation.Delimited` says that they do. Every text with a scheme has one such derivation
  (`exists_delimited`), and every derivation by the rules is such (`Valid.delimited`).
* `userInfo_text` and `hostPort_text` give the parts that splitting finds.
-/

namespace Dialer.Uri

open Text

namespace Grammar

/-! ## Derivations that delimiters take apart -/

/-- The text after the user info. -/
def AuthorityDerivation.hostPortText (a : AuthorityDerivation) : Text :=
  a.host ++ a.port.elim [] (char ':' :: ·)

/-- No delimiter stands where it would part the authority otherwise. -/
structure AuthorityDerivation.Delimited (a : AuthorityDerivation) : Prop where
  host_at : char '@' ∉ a.host
  host_colon : char ':' ∉ a.host
  port_at : ∀ p ∈ a.port, char '@' ∉ p
  inside : a.text.all (!endsAuthority ·) = true

/-- No delimiter stands where it would part the text otherwise. -/
structure Derivation.Delimited (d : Derivation) : Prop where
  scheme : isScheme d.scheme = true
  authority : ∀ a ∈ d.authority, a.Delimited
  path : PathBegins d.authority d.path
  path_query : char '?' ∉ d.path
  path_fragment : char '#' ∉ d.path
  query_fragment : ∀ q ∈ d.query, char '#' ∉ q

/-! ## Authorities -/

section

variable {a : AuthorityDerivation}

theorem AuthorityDerivation.at_not_mem_hostPortText (h : a.Delimited) :
    char '@' ∉ a.hostPortText := by
  rw [hostPortText, List.mem_append]
  rintro (mem | mem)
  · exact h.host_at mem
  · cases hp : a.port with
    | none => simp [hp] at mem
    | some p =>
      have := h.port_at p hp
      simp_all

theorem AuthorityDerivation.cutLast_text (h : a.Delimited) :
    cutLast '@' a.text = (a.userInfo, a.hostPortText) := by
  rw [text, List.append_assoc]
  exact cutLast_elim_append a.userInfo (at_not_mem_hostPortText h)

/-- The user info of the authority that the parts make up. -/
theorem AuthorityDerivation.userInfo_text (h : a.Delimited) :
    Authority.userInfo a.text = a.userInfo := by
  rw [Authority.userInfo, cutLast_text h]

/-- The host and the port of the authority that the parts make up. -/
theorem AuthorityDerivation.hostPort_text (h : a.Delimited) (bracket : char '[' ∉ a.text) :
    Authority.hostPort a.text = (a.host, a.port.getD []) := by
  have fresh : char '[' ∉ a.hostPortText := fun mem => bracket (by
    rw [text, List.append_assoc]
    exact List.mem_append_right _ mem)
  have parted : cutFirst ':' a.hostPortText = (a.host, a.port) :=
    cutFirst_append_elim h.host_colon a.port
  simp only [Authority.hostPort, cutLast_text h, cutFirst_of_not_mem fresh, parted]

end

/-- Every text without a character that ends an authority has its parts. -/
theorem AuthorityDerivation.exists_delimited {s : Text} (h : s.all (!endsAuthority ·) = true) :
    ∃ a : AuthorityDerivation, a.Delimited ∧ a.text = s := by
  rcases last : cutLast '@' s with ⟨userInfo, rest⟩
  rcases first : cutFirst ':' rest with ⟨host, port⟩
  obtain ⟨hs, fresh⟩ := eq_of_cutLast last
  obtain ⟨hr, colon⟩ := eq_of_cutFirst first
  have whole : AuthorityDerivation.text ⟨userInfo, host, port⟩ = s := by
    rw [text, List.append_assoc, ← hr, hs]
  refine ⟨⟨userInfo, host, port⟩, ⟨?_, colon, ?_, by rw [whole]; exact h⟩, whole⟩
  · exact fun mem => fresh (hr ▸ List.mem_append_left _ mem)
  · rintro p rfl mem
    exact fresh (hr ▸ List.mem_append_right _ (List.mem_cons_of_mem _ mem))

/-! ## References -/

/-- The parts as splitting gives them. -/
def Derivation.parts (d : Derivation) : Parts where
  scheme := d.scheme.map CodePoint.toLower
  authority := d.authority.elim [] (·.text)
  path := d.path
  query := d.query.getD []
  fragment := d.fragment.getD []

/-- The pieces that splitting a text at its delimiters gives, the authority in one. -/
def Derivation.pieces (d : Derivation) : Pieces where
  scheme := some d.scheme
  authority := d.authority.map (·.text)
  path := d.path
  query := d.query
  fragment := d.fragment

section

variable {d : Derivation}

theorem Derivation.text_pieces (d : Derivation) : d.pieces.text = d.text := by
  rcases d with ⟨scheme, _ | a, path, query, fragment⟩ <;>
    simp [pieces, text, hierText, Pieces.text, Pieces.hierText, Pieces.endText]

theorem Derivation.Delimited.pieces (h : d.Delimited) : d.pieces.Delimited where
  authority := by
    intro t ht
    obtain ⟨a, ha, rfl⟩ := Option.map_eq_some_iff.mp ht
    exact (h.authority a ha).inside
  path := by
    have begins := h.path
    cases ha : d.authority with
    | none => simpa [Derivation.pieces, PathBegins, ha] using begins
    | some a => simpa [Derivation.pieces, PathBegins, ha] using begins
  path_query := h.path_query
  path_fragment := h.path_fragment
  query_fragment := h.query_fragment
  scheme s hs := by
    obtain rfl := Option.some.inj hs
    exact h.scheme
  unschemed := nofun

theorem Derivation.parts_pieces (d : Derivation) : d.pieces.parts = d.parts := by
  rcases d with ⟨scheme, _ | a, path, query, fragment⟩ <;> rfl

end

/-- **Every text with a scheme has its parts**, whether or not they follow their rules. -/
theorem exists_delimited {scheme : Text} (h : isScheme scheme = true) (rest : Text) :
    ∃ d : Derivation, d.Delimited ∧ d.text = scheme ++ char ':' :: rest := by
  obtain ⟨p, parted, unschemed, rfl⟩ := Pieces.exists_parted rest
  have begins := parted.path
  rw [← Pieces.text_withScheme unschemed scheme]
  cases ha : p.authority with
  | none =>
    rw [ha] at begins
    refine ⟨⟨scheme, none, p.path, p.query, p.fragment⟩, ⟨h, by simp, begins, parted.path_query,
      parted.path_fragment, parted.query_fragment⟩, ?_⟩
    simp [Derivation.text, Derivation.hierText, Pieces.text, Pieces.hierText, Pieces.endText]
  | some t =>
    rw [ha] at begins
    obtain ⟨a, delimited, rfl⟩ := AuthorityDerivation.exists_delimited (parted.authority t ha)
    refine ⟨⟨scheme, some a, p.path, p.query, p.fragment⟩, ⟨h, by simpa using delimited, begins,
      parted.path_query, parted.path_fragment, parted.query_fragment⟩, ?_⟩
    simp [Derivation.text, Derivation.hierText, Pieces.text, Pieces.hierText, Pieces.endText]

/-! ## Derivations by the rules -/

theorem AuthorityDerivation.not_mem_text {a : AuthorityDerivation} {c : CodePoint} (hh : c ∉ a.host)
    (hu : ∀ u ∈ a.userInfo, c ∉ u) (hp : ∀ p ∈ a.port, c ∉ p) (not_at : c ≠ '@')
    (not_colon : c ≠ ':') : c ∉ a.text := by
  rcases a with ⟨_ | u, host, _ | p⟩ <;> simp_all [text]

theorem AuthorityDerivation.Valid.delimited {a : AuthorityDerivation} (h : a.Valid)
    (bracket : char '[' ∉ a.text) : a.Delimited := by
  have inName : char '[' ∉ a.host := fun mem => bracket (by simp [text, mem])
  have host := (mem_regName_iff.mp ((mem_host_iff inName).mp h.host)).1
  have port : ∀ p ∈ a.port, p.all CodePoint.isDigit = true := fun p hp =>
    mem_port_iff.mp (h.port p hp)
  have user : ∀ u ∈ a.userInfo, u.all Component.userInfo.allows = true := fun u hu =>
    (mem_userinfo_iff.mp (h.userInfo u hu)).1
  refine ⟨not_mem_of_all host (by decide), not_mem_of_all host (by decide),
    fun p hp => not_mem_of_all (port p hp) (by decide), ?_⟩
  have outside (c : CodePoint) (hn : isNameChar c = false)
    (hu : Component.userInfo.allows c = false)
      (hd : c.isDigit = false) (not_at : c ≠ '@') (not_colon : c ≠ ':') : c ∉ a.text :=
    not_mem_text (not_mem_of_all host hn) (fun u h => not_mem_of_all (user u h) hu)
      (fun p h => not_mem_of_all (port p h) hd) not_at not_colon
  exact all_not_endsAuthority
    (outside '/' (by decide) (by decide) (by decide) (by decide) (by decide))
    (outside '?' (by decide) (by decide) (by decide) (by decide) (by decide))
    (outside '#' (by decide) (by decide) (by decide) (by decide) (by decide))

theorem Derivation.Valid.delimited {d : Derivation} (h : d.Valid) (bracket : char '[' ∉ d.text) :
    d.Delimited := by
  have query : ∀ q ∈ d.query, q.all Component.query.allows = true := fun q hq =>
    (mem_query_iff.mp (h.query q hq)).1
  have path : d.path.all Component.path.allows = true ∧ PathBegins d.authority d.path := by
    have rule := h.path
    cases ha : d.authority with
    | none =>
      rw [ha, mem_path_iff] at rule
      exact ⟨rule.1.1, rule.2⟩
    | some a =>
      rw [ha] at rule
      have rule := mem_pathAbempty_iff.mp rule
      exact ⟨rule.1.1, rule.2⟩
  refine ⟨mem_scheme_iff.mp h.scheme, fun a ha => ?_, path.2, not_mem_of_all path.1 (by decide),
    not_mem_of_all path.1 (by decide), fun q hq => not_mem_of_all (query q hq) (by decide)⟩
  exact (h.authority a ha).delimited fun mem => bracket (by
    have := Option.mem_def.mp ha
    simp [text, hierText, this, mem])

end Grammar

end Dialer.Uri
