import Dialer.Proofs.Uri.Splitting

/-!
# What the rules come down to

A derivation that delimiters take apart follows the rules of the grammar exactly if its parts have
the characters that they may have and escapes are complete.

* `valid_iff` says so. Escapes lie within the parts (`escapesFit_text`).
* `legal_text` and `host_all_isNameChar` compare the characters of the parts with the filter that
  parsing puts on whole texts: for a host, it leaves what a registered name may hold.
-/

namespace Dialer.Uri

open Text

namespace Grammar

theorem AuthorityDerivation.escapesFit_text (a : AuthorityDerivation) :
    escapesFit a.text = true ↔ (∀ u ∈ a.userInfo, escapesFit u = true) ∧
      escapesFit a.host = true ∧ ∀ p ∈ a.port, escapesFit p = true := by
  rw [text, List.append_assoc, escapesFit_elim_append (by decide) (by decide),
    escapesFit_append_elim (by decide) (by decide)]

/-- Escapes lie within the components. -/
theorem Derivation.escapesFit_text {d : Derivation} (h : d.Delimited) :
    escapesFit d.text = true ↔ ((∀ a ∈ d.authority, escapesFit a.text = true) ∧
      escapesFit d.path = true) ∧ (∀ q ∈ d.query, escapesFit q = true) ∧
      ∀ f ∈ d.fragment, escapesFit f = true := by
  rw [← text_pieces, h.pieces.escapesFit_text]
  simp [pieces]

namespace Derivation

variable {d : Derivation}

theorem text_subset {a : AuthorityDerivation} (ha : d.authority = some a) : a.text ⊆ d.text := by
  intro c hc
  simp [text, hierText, ha, hc]

/-! ## Rules as character classes -/

/-- Each part has the characters that its rule allows. -/
structure Allowed (d : Derivation) : Prop where
  userInfo : ∀ a ∈ d.authority, ∀ u ∈ a.userInfo, u.all Component.userInfo.allows = true
  host : ∀ a ∈ d.authority, a.host.all isNameChar = true
  port : ∀ a ∈ d.authority, ∀ p ∈ a.port, p ∈ Grammar.port
  path : d.path.all Component.path.allows = true
  query : ∀ q ∈ d.query, q.all Component.query.allows = true
  fragment : ∀ f ∈ d.fragment, f.all Component.fragment.allows = true

theorem path_mem_iff (begins : PathBegins d.authority d.path) :
    d.path ∈ pathRule d.authority ↔
      d.path.all Component.path.allows = true ∧ escapesFit d.path = true := by
  cases ha : d.authority with
  | none =>
    rw [ha] at begins
    exact mem_path_iff.trans (and_iff_left begins)
  | some a =>
    rw [ha] at begins
    exact mem_pathAbempty_iff.trans (and_iff_left begins)

/-- The rules come down to characters and escapes, which lie within the parts. -/
theorem valid_iff (h : d.Delimited) (opening : char '[' ∉ d.text) :
    d.Valid ↔ d.Allowed ∧ escapesFit d.text = true := by
  have name {a : AuthorityDerivation} (ha : d.authority = some a) : char '[' ∉ a.host := fun mem =>
    opening (text_subset ha (by simp [AuthorityDerivation.text, mem]))
  have digits {p : Text} (hp : p ∈ Grammar.port) : escapesFit p = true :=
    escapesFit_of_percent_not_mem (not_mem_of_all (mem_port_iff.mp hp) (by decide))
  rw [escapesFit_text h]
  constructor
  · rintro ⟨-, authority, path, query, fragment⟩
    have path := (path_mem_iff h.path).mp path
    have host (a : AuthorityDerivation) (ha : a ∈ d.authority) :=
      mem_regName_iff.mp ((mem_host_iff (name ha)).mp (authority a ha).host)
    refine ⟨⟨fun a ha u hu => (mem_userinfo_iff.mp ((authority a ha).userInfo u hu)).1,
      fun a ha => (host a ha).1, fun a ha => (authority a ha).port, path.1,
      fun q hq => (mem_query_iff.mp (query q hq)).1,
      fun f hf => (mem_fragment_iff.mp (fragment f hf)).1⟩, ⟨fun a ha => ?_, path.2⟩,
      fun q hq => (mem_query_iff.mp (query q hq)).2,
      fun f hf => (mem_fragment_iff.mp (fragment f hf)).2⟩
    exact (AuthorityDerivation.escapesFit_text a).mpr
      ⟨fun u hu => (mem_userinfo_iff.mp ((authority a ha).userInfo u hu)).2, (host a ha).2,
        fun p hp => digits ((authority a ha).port p hp)⟩
  · rintro ⟨allowed, ⟨authority, path⟩, query, fragment⟩
    refine ⟨mem_scheme_iff.mpr h.scheme, fun a ha => ?_,
      (path_mem_iff h.path).mpr ⟨allowed.path, path⟩,
      fun q hq => mem_query_iff.mpr ⟨allowed.query q hq, query q hq⟩,
      fun f hf => mem_fragment_iff.mpr ⟨allowed.fragment f hf, fragment f hf⟩⟩
    obtain ⟨user, host, -⟩ := (AuthorityDerivation.escapesFit_text a).mp (authority a ha)
    exact ⟨fun u hu => mem_userinfo_iff.mpr ⟨allowed.userInfo a ha u hu, user u hu⟩,
      (mem_host_iff (name ha)).mpr (mem_regName_iff.mpr ⟨allowed.host a ha, host⟩),
      allowed.port a ha⟩

/-- What is left for a host by the filter on the whole text is what a registered name may hold. -/
theorem host_all_isNameChar (h : d.Delimited) (legal : d.text.any isIllegal = false)
    (ascii : d.text.isAscii = true) (opening : char '[' ∉ d.text) (closing : char ']' ∉ d.text)
    {a : AuthorityDerivation} (ha : d.authority = some a) : a.host.all isNameChar = true := by
  refine List.all_eq_true.mpr fun c hc => ?_
  have inText : c ∈ a.text := by simp [AuthorityDerivation.text, hc]
  have inWhole := text_subset ha inText
  have small := of_decide_eq_true (List.all_eq_true.mp ascii c inWhole)
  have fine : isIllegal c = false := by simpa using List.any_eq_false.mp legal c inWhole
  have delimiter : isGenDelim c = false := by
    have delimited := h.authority a ha
    have inside : endsAuthority c = false := by
      simpa using List.all_eq_true.mp delimited.inside c inText
    simp only [endsAuthority, Bool.or_eq_false_iff, decide_eq_false_iff_not] at inside
    have hat : c ≠ '@' := fun e => delimited.host_at (e ▸ hc)
    have colon : c ≠ ':' := fun e => delimited.host_colon (e ▸ hc)
    have first : c ≠ '[' := fun e => opening (e ▸ inWhole)
    have last : c ≠ ']' := fun e => closing (e ▸ inWhole)
    simp [isGenDelim, String.toText, inside, hat, colon, first, last]
  have all := legal_of_ascii small fine
  simpa [delimiter, isNameChar] using all

/-- Every character that a part may hold is legal. -/
theorem legal_text (h : d.Delimited) (allowed : d.Allowed) : d.text.any isIllegal = false := by
  have path : d.path.any isIllegal = false :=
    legal_of_all allowed.path (by simp +contextual [Component.allows])
  have query : ∀ q ∈ d.query, q.any isIllegal = false := fun q hq =>
    legal_of_all (allowed.query q hq) fun _ => id
  have fragment : ∀ f ∈ d.fragment, f.any isIllegal = false := fun f hf =>
    legal_of_all (allowed.fragment f hf) fun _ => id
  have user : ∀ a ∈ d.authority, ∀ u ∈ a.userInfo, u.any isIllegal = false := fun a ha u hu =>
    legal_of_all (allowed.userInfo a ha u hu) (by simp +contextual [Component.allows])
  have host : ∀ a ∈ d.authority, a.host.any isIllegal = false := fun a ha =>
    legal_of_all (allowed.host a ha) (by simp +contextual [isNameChar, Component.allows])
  have port : ∀ a ∈ d.authority, ∀ p ∈ a.port, p.any isIllegal = false := fun a ha p hp =>
    legal_of_all (mem_port_iff.mp (allowed.port a ha p hp))
      (by simp +contextual [Component.allows, isUnreserved, CodePoint.isAlphanum])
  have authority : ∀ a ∈ d.authority, a.text.any isIllegal = false := fun a ha => by
    rw [AuthorityDerivation.text, List.append_assoc, any_elim_append (by decide),
      any_append_elim (by decide)]
    exact ⟨user a ha, host a ha, port a ha⟩
  rw [← text_pieces]
  exact h.pieces.legal_text (by simpa [pieces] using authority) path query fragment

end Derivation

end Grammar

end Dialer.Uri
