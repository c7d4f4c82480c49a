import Dialer.Proofs.Uri.Pieces

/-!
# Authorities and their pieces

An authority is made up of user info, a host that may be a literal in brackets, and a port.

* `AuthorityPieces.WellFormed` says what the checks of brackets and of the port come down to. Every
  authority that passes them is made up of such pieces (`exists_authorityPieces`), and every
  authority that is made up of such pieces passes (`checkBrackets_text`).
* `userInfo_text` and `hostPort_text` give the parts that are found in an authority.
* `any_text` and `escapesFit_text` tell where its characters and escapes are.
-/

namespace Dialer.Uri

open Text

/-- The pieces of an authority. -/
structure AuthorityPieces where
  userInfo : Option Text
  /-- Whether the host stands in brackets. -/
  literal : Bool
  host : Text
  port : Option Text

namespace AuthorityPieces

/-- The host as it is written. -/
def hostText (a : AuthorityPieces) : Text :=
  if a.literal then char '[' :: (a.host ++ [char ']']) else a.host

/-- The text after the user info. -/
def hostPortText (a : AuthorityPieces) : Text := a.hostText ++ a.port.elim [] (char ':' :: ·)

/-- The text that the pieces make up. -/
def text (a : AuthorityPieces) : Text := a.userInfo.elim [] (· ++ [char '@']) ++ a.hostPortText

/-- Brackets hold an address and stand nowhere else, and the port is made of digits. -/
structure WellFormed (a : AuthorityPieces) : Prop where
  userInfo : ∀ u ∈ a.userInfo, char '[' ∉ u ∧ char ']' ∉ u
  host_at : char '@' ∉ a.host
  host_closing : char ']' ∉ a.host
  bare : a.literal = false → char '[' ∉ a.host ∧ char ':' ∉ a.host
  literal : a.literal = true → Authority.checkBracketedHost a.host = .ok ()
  port : ∀ p ∈ a.port, p.all CodePoint.isDigit = true

variable {a : AuthorityPieces}

/-! ## Characters and escapes -/

theorem any_hostText {p : CodePoint → Bool} (opening : p '[' = false) (closing : p ']' = false) :
    a.hostText.any p = a.host.any p := by
  unfold hostText
  split
  · simp [opening, closing]
  · rfl

/-- Apart from its delimiters, the characters of an authority are those of its pieces. -/
theorem any_text {p : CodePoint → Bool} (opening : p '[' = false) (closing : p ']' = false)
    (sign : p '@' = false) (colon : p ':' = false) : a.text.any p = false ↔
      (∀ u ∈ a.userInfo, u.any p = false) ∧ a.host.any p = false ∧
        ∀ t ∈ a.port, t.any p = false := by
  rw [text, any_elim_append sign, hostPortText, any_append_elim colon, any_hostText opening closing]

theorem escapesFit_hostText : escapesFit a.hostText = escapesFit a.host := by
  unfold hostText
  split
  · rw [escapesFit_cons (by decide), escapesFit_append_cons (by decide) (by decide)]
    exact Bool.and_true _
  · rfl

/-- Escapes lie within the pieces. -/
theorem escapesFit_text : escapesFit a.text = true ↔ (∀ u ∈ a.userInfo, escapesFit u = true) ∧
    escapesFit a.host = true ∧ ∀ t ∈ a.port, escapesFit t = true := by
  rw [text, escapesFit_elim_append (by decide) (by decide), hostPortText,
    escapesFit_append_elim (by decide) (by decide), escapesFit_hostText]

/-! ## Parts -/

theorem mem_hostPortText_iff {c : CodePoint} (colon : c ≠ ':') :
    c ∈ a.hostPortText ↔ c ∈ a.hostText ∨ ∃ t ∈ a.port, c ∈ t := by
  rw [hostPortText, List.mem_append, mem_elim_cons colon]

theorem at_not_mem_hostPortText (h : a.WellFormed) : char '@' ∉ a.hostPortText := by
  rw [mem_hostPortText_iff (by decide), not_or]
  constructor
  · have host := h.host_at
    unfold hostText
    split <;> simpa using host
  · rintro ⟨t, ht, mem⟩
    exact not_mem_of_all (h.port t ht) (by decide) mem

theorem cutLast_text (h : a.WellFormed) : cutLast '@' a.text = (a.userInfo, a.hostPortText) :=
  cutLast_elim_append a.userInfo (at_not_mem_hostPortText h)

/-- The user info of the authority that the pieces make up. -/
theorem userInfo_text (h : a.WellFormed) : Authority.userInfo a.text = a.userInfo := by
  rw [Authority.userInfo, cutLast_text h]

theorem bracket_not_mem_hostPortText (h : a.WellFormed) (bare : a.literal = false) :
    char '[' ∉ a.hostPortText ∧ char ']' ∉ a.hostPortText := by
  have host : a.hostText = a.host := by simp [hostText, bare]
  rw [mem_hostPortText_iff (by decide), mem_hostPortText_iff (by decide), host, not_or, not_or]
  refine ⟨⟨(h.bare bare).1, ?_⟩, h.host_closing, ?_⟩
  · rintro ⟨t, ht, mem⟩
    exact not_mem_of_all (h.port t ht) (by decide) mem
  · rintro ⟨t, ht, mem⟩
    exact not_mem_of_all (h.port t ht) (by decide) mem

theorem hostPortText_of_literal (literal : a.literal = true) :
    a.hostPortText = char '[' :: (a.host ++ char ']' :: a.port.elim [] (char ':' :: ·)) := by
  simp [hostPortText, hostText, literal]

/-- The host and the port of the authority that the pieces make up. -/
theorem hostPort_text (h : a.WellFormed) :
    Authority.hostPort a.text = (a.host, a.port.getD []) := by
  cases literal : a.literal with
  | false =>
    have fresh := (bracket_not_mem_hostPortText h literal).1
    have parted : cutFirst ':' a.hostPortText = (a.host, a.port) := by
      have host : a.hostText = a.host := by simp [hostText, literal]
      rw [hostPortText, host]
      exact cutFirst_append_elim (h.bare literal).2 a.port
    simp only [Authority.hostPort, cutLast_text h, cutFirst_of_not_mem fresh, parted]
  | true =>
    have after : cutFirst ':' (a.port.elim [] (char ':' :: ·)) = ([], a.port) :=
      cutFirst_append_elim List.not_mem_nil a.port
    have opening := cutFirst_append (c := '[') List.not_mem_nil
      (a.host ++ char ']' :: a.port.elim [] (char ':' :: ·))
    simp only [List.nil_append] at opening
    simp only [Authority.hostPort, cutLast_text h, hostPortText_of_literal literal, opening,
      cutFirst_append h.host_closing, Option.getD_some, after]

/-! ## Checks -/

/-- The authority that well-formed pieces make up passes the check of its brackets. -/
theorem checkBrackets_text (h : a.WellFormed) : Authority.checkBrackets a.text = .ok () := by
  cases literal : a.literal with
  | false =>
    obtain ⟨opening, closing⟩ := bracket_not_mem_hostPortText h literal
    have outside (c : CodePoint) (sign : c ≠ '@') (user : ∀ u ∈ a.userInfo, c ∉ u)
        (rest : c ∉ a.hostPortText) : a.text.contains c = false := by
      rw [← Bool.not_eq_true, List.contains_iff_mem, text, List.mem_append, not_or]
      refine ⟨?_, rest⟩
      cases hu : a.userInfo with
      | none => simp
      | some u => simpa [sign] using user u hu
    rw [Authority.checkBrackets, outside '[' (by decide) (fun u hu => (h.userInfo u hu).1) opening,
      outside ']' (by decide) (fun u hu => (h.userInfo u hu).2) closing]
  | true =>
    have whole := hostPortText_of_literal literal
    have inside (c : CodePoint) (mem : c ∈ a.hostPortText) : a.text.contains c = true :=
      List.contains_iff_mem.mpr (List.mem_append_right _ mem)
    have opening := cutFirst_append (c := '[') List.not_mem_nil
      (a.host ++ char ']' :: a.port.elim [] (char ':' :: ·))
    have port :
        ((some (a.port.elim [] (char ':' :: ·)) : Option Text).getD []).head?.any (· != char ':') =
        false := by
      cases a.port <;> rfl
    rw [Authority.checkBrackets, inside '[' (by simp [whole]), inside ']' (by simp [whole])]
    simp only [List.nil_append] at opening
    simp only [Authority.checkBracketed, cutLast_text h, whole, opening,
      cutFirst_append h.host_closing, port, List.isEmpty_nil, h.literal literal]
    rfl

theorem all_isDigit_of_port {authority : Text} {n : Option Nat}
    (h : Authority.port authority = .ok n) :
    (Authority.hostPort authority).2.all CodePoint.isDigit = true := by
  unfold Authority.port at h
  split at h
  next empty =>
    rw [empty]
    rfl
  next =>
    split at h
    next => cases h
    next digits => simpa using digits

/-- Checking brackets comes down to a bare text or a literal after the user info. -/
theorem checkBrackets_cases {authority : Text} (h : Authority.checkBrackets authority = .ok ()) :
    (char '[' ∉ authority ∧ char ']' ∉ authority) ∨ (char '[' ∈ authority ∧ char ']' ∈ authority ∧
      Authority.checkBracketed (cutLast '@' authority).2 = .ok ()) := by
  unfold Authority.checkBrackets at h
  cases opening : authority.contains '[' <;> cases closing : authority.contains ']' <;>
    simp only [opening, closing] at h
  · simp only [← Bool.not_eq_true, List.contains_iff_mem] at opening closing
    exact Or.inl ⟨opening, closing⟩
  · cases h
  · cases h
  · exact Or.inr ⟨List.contains_iff_mem.mp opening, List.contains_iff_mem.mp closing, h⟩

section

variable {userInfo : Option Text} {rest : Text}

theorem exists_bare (user : ∀ u ∈ userInfo, char '[' ∉ u ∧ char ']' ∉ u) (sign : char '@' ∉ rest)
    (opening : char '[' ∉ rest) (closing : char ']' ∉ rest)
    (digits : ((cutFirst ':' rest).2.getD []).all CodePoint.isDigit = true) :
    ∃ a : AuthorityPieces, a.WellFormed ∧ a.userInfo = userInfo ∧ a.hostPortText = rest := by
  rcases cut : cutFirst ':' rest with ⟨host, port⟩
  rw [cut] at digits
  obtain ⟨rfl, colon⟩ := eq_of_cutFirst cut
  have inHost (c : CodePoint) (h : c ∉ host ++ port.elim [] (char ':' :: ·)) : c ∉ host :=
    fun mem =>
    h (List.mem_append_left _ mem)
  refine ⟨⟨userInfo, false, host, port⟩, ⟨user, inHost _ sign, inHost _ closing,
    fun _ => ⟨inHost _ opening, colon⟩, nofun, ?_⟩, rfl, rfl⟩
  rintro p rfl
  exact digits

theorem exists_literal {before bracketed : Text}
    (user : ∀ u ∈ userInfo, char '[' ∉ u ∧ char ']' ∉ u)
    (sign : char '@' ∉ rest) (opening : cutFirst '[' rest = (before, some bracketed))
    (closing : char ']' ∈ rest) (checked : Authority.checkBracketed rest = .ok ())
    (digits :
      ((cutFirst ':' ((cutFirst ']' bracketed).2.getD [])).2.getD []).all CodePoint.isDigit =
      true) :
    ∃ a : AuthorityPieces, a.WellFormed ∧ a.userInfo = userInfo ∧ a.hostPortText = rest := by
  obtain ⟨rfl, -⟩ := eq_of_cutFirst opening
  rcases cut : cutFirst ']' bracketed with ⟨host, after⟩
  rw [cut] at digits
  obtain ⟨rfl, fresh⟩ := eq_of_cutFirst cut
  simp only [Authority.checkBracketed, opening, cut] at checked
  split at checked
  next => cases checked
  next start =>
    obtain rfl : before = [] := by simpa using start
    split at checked
    next => cases checked
    next colon =>
      cases after with
      | none => exact absurd closing (by simpa using fresh)
      | some after =>
        simp only [Option.elim_some, List.nil_append, Option.getD_some] at sign colon digits ⊢
        have inHost : char '@' ∉ host := fun mem =>
          sign (List.mem_cons_of_mem _ (List.mem_append_left _ mem))
        rcases after with _ | ⟨c, port⟩
        · exact ⟨⟨userInfo, true, host, none⟩, ⟨user, inHost, fresh, nofun, fun _ => checked,
            by simp⟩, rfl, by simp [hostPortText, hostText]⟩
        · obtain rfl : c = ':' := by simpa using colon
          refine ⟨⟨userInfo, true, host, some port⟩, ⟨user, inHost, fresh, nofun,
            fun _ => checked, ?_⟩, rfl, by simp [hostPortText, hostText]⟩
          simpa [cutFirst] using digits

end

/-- **Every authority that passes its checks has its pieces.** -/
theorem exists_authorityPieces {authority : Text} {n : Option Nat}
    (brackets : Authority.checkBrackets authority = .ok ())
    (user : ∀ u ∈ Authority.userInfo authority, char '[' ∉ u ∧ char ']' ∉ u)
    (port : Authority.port authority = .ok n) :
    ∃ a : AuthorityPieces, a.WellFormed ∧ a.text = authority := by
  have digits := all_isDigit_of_port port
  have checked := checkBrackets_cases brackets
  rcases last : cutLast '@' authority with ⟨userInfo, rest⟩
  obtain ⟨whole, sign⟩ := eq_of_cutLast last
  simp only [Authority.userInfo, last] at user
  simp only [Authority.hostPort, last] at digits
  simp only [last] at checked
  suffices ∃ a : AuthorityPieces, a.WellFormed ∧ a.userInfo = userInfo ∧ a.hostPortText = rest by
    obtain ⟨a, well, rfl, rfl⟩ := this
    exact ⟨a, well, whole.symm⟩
  have outside (c : CodePoint) (colon : c ≠ '@') (inUser : ∀ u ∈ userInfo, c ∉ u)
      (mem : c ∈ authority) : c ∈ rest := by
    rw [whole, List.mem_append] at mem
    rcases mem with mem | mem
    · cases userInfo with
      | none => cases mem
      | some u => exact absurd mem (by simpa [colon] using inUser u rfl)
    · exact mem
  rcases checked with ⟨opening, closing⟩ | ⟨opening, closing, address⟩
  · have inside (c : CodePoint) (h : c ∉ authority) : c ∉ rest := fun mem =>
      h (whole ▸ List.mem_append_right _ mem)
    rw [cutFirst_of_not_mem (inside '[' opening)] at digits
    exact exists_bare user sign (inside '[' opening) (inside ']' closing) digits
  · have closing := outside ']' (by decide) (fun u hu => (user u hu).2) closing
    have opening := outside '[' (by decide) (fun u hu => (user u hu).1) opening
    rcases cut : cutFirst '[' rest with ⟨before, _ | bracketed⟩
    · obtain ⟨rfl, fresh⟩ := eq_of_cutFirst cut
      exact absurd opening (by simpa using fresh)
    · rw [cut] at digits
      exact exists_literal user sign cut closing address digits

end AuthorityPieces

end Dialer.Uri
