import Dialer.Proofs.Host.Literals
import Dialer.Proofs.Uri.Authorities
import Dialer.Uri.Parse

/-!
# The form of hosts

A host that is parsed comes out in lower case up to its first `%`, and as a domain name if that is
not ASCII. Neither brings in a delimiter, and an address stays one.

* `HostForm` says what every host that comes out is like: `hostForm_lowerHost` for hosts in lower
  case, `hostForm_of_isDomainName` for domain names.
* `HostEncoding.GivesNames` is what is assumed of encodings: they give domain names.
-/

namespace Dialer

/-! ## Domain names -/

namespace Uri

/-- Whether a domain name in lower case may hold the character. -/
def isDomainChar (c : CodePoint) : Bool := c.isLower || c.isDigit || c = '-' || c = '.'

/-- The text is a domain name in lower case, or at least made of its characters. -/
structure IsDomainName (s : Text) : Prop where
  nonempty : s ≠ []
  chars : s.all isDomainChar = true

theorem toNat_lt_of_isDomainChar {c : CodePoint} (h : isDomainChar c = true) : c.toNat < 128 := by
  simp only [isDomainChar, CodePoint.isLower, CodePoint.isDigit, Bool.or_eq_true, Bool.and_eq_true,
    decide_eq_true_eq] at h
  change (((97 ≤ c.toNat ∧ c.toNat ≤ 122) ∨ (48 ≤ c.toNat ∧ c.toNat ≤ 57)) ∨ c = '-') ∨
    c = '.' at h
  rcases h with ((h | h) | rfl) | rfl
  · omega
  · omega
  all_goals decide

end Uri

/-- What the encoding gives is a domain name, whatever the host. -/
def HostEncoding.GivesNames (encode : HostEncoding) : Prop :=
  ∀ host name, encode host = some name → Uri.IsDomainName name

theorem HostEncoding.givesNames_asciiOnly : HostEncoding.asciiOnly.GivesNames := nofun

/-- The encoding of a single host. -/
def HostEncoding.single (host name : Text) : HostEncoding := fun other =>
  if other = host then some name else none

theorem HostEncoding.givesNames_single {host name : Text} (h : Uri.IsDomainName name) :
    (HostEncoding.single host name).GivesNames := by
  intro other encoded same
  obtain ⟨-, given⟩ := Option.ite_none_right_eq_some.mp same
  exact Option.some.inj given ▸ h

namespace Uri

open Text Unicode Host

/-- The form of a host that parsing leaves as it is. -/
structure HostForm (h : Text) : Prop where
  nonempty : h ≠ []
  ascii : h.isAscii = true
  legal : h.any isIllegal = false
  escapes : escapesFit h = true
  lowered : Authority.lowerHost h = h
  inside : h.any endsAuthority = false
  host_at : char '@' ∉ h
  host_closing : char ']' ∉ h
  literal : char ':' ∈ h → Authority.checkBracketedHost h = .ok ()

/-! ## Characters -/

theorem isIllegal_ascii {c : CodePoint} (h : isIllegal c = true) :
    c.toNat < 128 ∧ c.isAlpha = false := by
  have small : c.toNat < 128 := by
    simp only [isIllegal, Bool.or_eq_true, decide_eq_true_eq] at h
    rcases h with (h | h) | h
    · omega
    · omega
    · have all : "\"<>\\^\x60\x7b|\x7d".toText.all (fun d => d.toNat < 128) = true := by decide
      exact of_decide_eq_true (List.all_eq_true.mp all c (List.contains_iff_mem.mp h))
  have all := of_ascii (p := fun c => !isIllegal c || !c.isAlpha) (by decide +kernel) small
  exact ⟨small, by simpa [h] using all⟩

theorem endsAuthority_ascii {c : CodePoint} (h : endsAuthority c = true) :
    c.toNat < 128 ∧ c.isAlpha = false := by
  simp only [endsAuthority, Bool.or_eq_true, decide_eq_true_eq] at h
  rcases h with (rfl | rfl) | rfl <;> decide

/-! ## Lower case -/

section

variable {name : Text} {zone : Option Text}

theorem lowerHost_append (h : char '%' ∉ name) (zone : Option Text) :
    Authority.lowerHost (name ++ zone.elim [] (char '%' :: ·)) =
      lower name ++ zone.elim [] (char '%' :: ·) := by
  rw [Authority.lowerHost, cutFirst_append_elim h]
  cases zone <;> simp

/-- A host whose lower case is ASCII is lowered letter by letter up to its zone. -/
theorem lowerHost_eq_map (h : char '%' ∉ name)
    (ascii : (Authority.lowerHost (name ++ zone.elim [] (char '%' :: ·))).isAscii = true) :
    Authority.lowerHost (name ++ zone.elim [] (char '%' :: ·)) =
      name.map smallLetter ++ zone.elim [] (char '%' :: ·) := by
  rw [lowerHost_append h, isAscii_append, Bool.and_eq_true] at ascii
  rw [lowerHost_append h, lower_eq_map_of_isAscii ascii.1]

theorem percent_not_mem_map (h : char '%' ∉ name) : char '%' ∉ name.map smallLetter := by
  simpa [smallLetter_eq_iff (d := '%') (by decide) (by decide)] using h

/-- Only letters come out of lower case as other characters. -/
theorem mem_map_smallLetter_iff {d : CodePoint} (h : d.toNat < 128 ∧ d.isAlpha = false) :
    d ∈ name.map smallLetter ++ zone.elim [] (char '%' :: ·) ↔
      d ∈ name ++ zone.elim [] (char '%' :: ·) := by
  rw [List.mem_append, List.mem_append, List.mem_map]
  refine or_congr_left ?_
  constructor
  · rintro ⟨c, hc, e⟩
    exact (smallLetter_eq_iff h.1 h.2).mp e ▸ hc
  · intro hd
    exact ⟨d, hd, (smallLetter_eq_iff h.1 h.2).mpr rfl⟩

theorem any_map_smallLetter {p : CodePoint → Bool}
    (hp : ∀ c, p c = true → c.toNat < 128 ∧ c.isAlpha = false)
    (h : (name ++ zone.elim [] (char '%' :: ·)).any p = false) :
    (name.map smallLetter ++ zone.elim [] (char '%' :: ·)).any p = false := by
  rw [List.any_eq_false] at h ⊢
  intro c hc holds
  exact h c ((mem_map_smallLetter_iff (hp c holds)).mp hc) holds

theorem escapesFit_append_of_percent_not_mem (h : char '%' ∉ name) (rest : Text) :
    escapesFit (name ++ rest) = escapesFit rest := by
  induction name with
  | nil => rfl
  | cons c name ih =>
    rw [List.cons_append, escapesFit_cons (List.ne_of_not_mem_cons h).symm]
    exact ih (List.not_mem_of_not_mem_cons h)

/-! ## Addresses -/

theorem checkBracketedHost_eq_ok_iff {host : Text} : Authority.checkBracketedHost host = .ok () ↔
    if host.head? = some (char 'v') then isFuture host = true
    else isIPv4 host = false ∧ isIPv6 host = true := by
  unfold Authority.checkBracketedHost
  by_cases later : host.head? = some (char 'v')
  · by_cases future : isFuture host = true <;> simp [later, future]
  · by_cases four : isIPv4 host = true <;> by_cases six : isIPv6 host = true <;>
      simp [later, four, six]

/-- No address literal begins with a bracket. -/
theorem head?_of_checkBracketedHost {host : Text}
    (h : Authority.checkBracketedHost host = .ok ()) : host.head? ≠ some (char '[') := by
  intro head
  rw [checkBracketedHost_eq_ok_iff, if_neg (by simp [head])] at h
  exact absurd (head?_of_isIPv6 h.2 head) (by decide)

/-- Lower case makes no IPv4 address of a text. -/
theorem isIPv4_of_map (h : isIPv4 (name.map smallLetter ++ zone.elim [] (char '%' :: ·)) = true) :
    isIPv4 (name ++ zone.elim [] (char '%' :: ·)) = true := by
  have same : ∀ c ∈ name, smallLetter c = c := fun c hc => by
    have chars := isIPv4_chars h (c := smallLetter c)
      (List.mem_append_left _ (List.mem_map_of_mem hc))
    have plain : (smallLetter c).toNat < 128 ∧ (smallLetter c).isAlpha = false := by
      rcases chars with digit | dot
      · exact isDigit_ascii digit
      · rw [dot]
        decide
    exact ((smallLetter_eq_iff plain.1 plain.2).mp rfl).symm
  rwa [List.map_congr_left same, List.map_id'] at h

/-- An address in lower case is an address. -/
theorem checkBracketedHost_map (h : char '%' ∉ name)
    (checked : Authority.checkBracketedHost (name ++ zone.elim [] (char '%' :: ·)) = .ok ()) :
    Authority.checkBracketedHost (name.map smallLetter ++ zone.elim [] (char '%' :: ·)) =
      .ok () := by
  rw [checkBracketedHost_eq_ok_iff] at checked ⊢
  split at checked
  next =>
    have future := isFuture_map checked
    obtain ⟨version, address, whole, -⟩ := isFuture_iff.mp future
    rw [if_pos (by rw [whole]; rfl)]
    exact future
  next =>
    have six := isIPv6_map h checked.2
    have four : isIPv4 (name.map smallLetter ++ zone.elim [] (char '%' :: ·)) = false :=
      Bool.eq_false_iff.mpr fun four => Bool.eq_false_iff.mp checked.1 (isIPv4_of_map four)
    have other : (name.map smallLetter ++ zone.elim [] (char '%' :: ·)).head? ≠ some (char 'v') :=
      fun head =>
      absurd (head?_of_isIPv6 six head) (by decide)
    rw [if_neg other]
    exact ⟨four, six⟩

end

/-! ## Hosts -/

/-- **A host in lower case has its form**, if it is ASCII. -/
theorem hostForm_lowerHost {written : Text} (nonempty : written ≠ [])
    (ascii : (Authority.lowerHost written).isAscii = true)
    (legal : written.any isIllegal = false) (escapes : escapesFit written = true)
    (inside : written.any endsAuthority = false) (sign : char '@' ∉ written)
    (closing : char ']' ∉ written)
    (literal : char ':' ∈ written → Authority.checkBracketedHost written = .ok ()) :
    HostForm (Authority.lowerHost written) := by
  rcases cut : cutFirst '%' written with ⟨name, zone⟩
  obtain ⟨rfl, percent⟩ := eq_of_cutFirst cut
  have low : lower (name.map smallLetter) = name.map smallLetter := by
    have before := ascii
    rw [lowerHost_append percent, isAscii_append, Bool.and_eq_true] at before
    rw [← lower_eq_map_of_isAscii before.1]
    exact lower_lower before.1
  have form := lowerHost_eq_map percent ascii
  rw [form] at ascii ⊢
  have percent' := percent_not_mem_map percent
  have letter (d : CodePoint) (h : d.toNat < 128 ∧ d.isAlpha = false) :
      d ∈ name.map smallLetter ++ zone.elim [] (char '%' :: ·) ↔
        d ∈ name ++ zone.elim [] (char '%' :: ·) :=
    mem_map_smallLetter_iff h
  refine ⟨?_, ascii, any_map_smallLetter (fun _ => isIllegal_ascii) legal, ?_, ?_,
    any_map_smallLetter (fun _ => endsAuthority_ascii) inside, ?_, ?_, fun colon => ?_⟩
  · simpa using nonempty
  · rw [escapesFit_append_of_percent_not_mem percent']
    rwa [escapesFit_append_of_percent_not_mem percent] at escapes
  · rw [lowerHost_append percent', low]
  · rwa [letter '@' (by decide)]
  · rwa [letter ']' (by decide)]
  · exact checkBracketedHost_map percent (literal ((letter ':' (by decide)).mp colon))

/-- What holds of small letters, digits, hyphens and dots holds of every character of a domain
name. -/
theorem of_isDomainChar {p : CodePoint → Bool} (table : (List.range 128).all (fun n =>
    !isDomainChar (CodePoint.ofNat n) || p (CodePoint.ofNat n)) = true) {c : CodePoint}
    (h : isDomainChar c = true) : p c = true := by
  have all := of_ascii (p := fun c => !isDomainChar c || p c) table
    (toNat_lt_of_isDomainChar h)
  simpa [h] using all

/-- **A domain name has the form of a host.** -/
theorem hostForm_of_isDomainName {name : Text} (h : IsDomainName name) : HostForm name := by
  have chars := List.all_eq_true.mp h.chars
  have absent (c : CodePoint) (hc : isDomainChar c = false) : c ∉ name :=
    not_mem_of_all h.chars hc
  have ascii : name.isAscii = true := List.all_eq_true.mpr fun c hc =>
    decide_eq_true (toNat_lt_of_isDomainChar (chars c hc))
  have none (p : CodePoint → Bool) (table : (List.range 128).all (fun n =>
      !isDomainChar (CodePoint.ofNat n) || !p (CodePoint.ofNat n)) = true) : name.any p = false :=
    List.any_eq_false.mpr fun c hc => by
      simpa using of_isDomainChar (p := fun c => !p c) table (chars c hc)
  have small : ∀ c ∈ name, c.toLower = c := fun c hc =>
    of_decide_eq_true
      (of_isDomainChar (p := fun c => c.toLower = c) (by decide +kernel) (chars c hc))
  have lowered : Authority.lowerHost name = name := by
    rw [Authority.lowerHost, cutFirst_of_not_mem (absent '%' (by decide))]
    simp only
    rw [lower_of_isAscii ascii, List.map_congr_left small, List.map_id']
  exact ⟨h.nonempty, ascii, none isIllegal (by decide +kernel),
    escapesFit_of_percent_not_mem (absent '%' (by decide)), lowered,
    none endsAuthority (by decide +kernel), absent '@' (by decide), absent ']' (by decide),
    fun colon => absurd colon (absent ':' (by decide))⟩

end Uri

end Dialer
