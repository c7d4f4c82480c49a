import Dialer.Endpoint
import Dialer.Proofs.Uri.NormalForm

/-!
# Where hosts get their brackets

An address is spelled with brackets or without them. Printing a URL puts brackets around every host
with a colon, while the `Host` header adds none to a host that begins with one.

* `unbracketed_brackets` and `hostHeader_brackets` say that the two spellings of an address are
  looked up alike and named alike in the header.
* `authority_eq_hostHeader_iff` says for which hosts a URL and the header agree, and
  `authority_of_parse` that they do for every URL that has been parsed.
-/

namespace Dialer

open Uri Text

namespace Host

variable {host : Text}

theorem bracketed_of_colon (h : char ':' ∈ host) :
    bracketed host = char '[' :: host ++ [char ']'] :=
  if_pos (List.contains_iff_mem.mpr h)

theorem bracketed_eq_self_iff : bracketed host = host ↔ char ':' ∉ host := by
  constructor
  · intro same colon
    have longer := congrArg List.length same
    rw [bracketed_of_colon colon, List.length_append, List.length_cons, List.length_singleton]
      at longer
    omega
  · exact fun bare => if_neg (by simpa using bare)

/-- Brackets around a host without any are taken away again. -/
theorem unbracketed_brackets (opening : char '[' ∉ host) (closing : char ']' ∉ host) :
    unbracketed (char '[' :: host ++ [char ']']) = host := by
  have inside (c : CodePoint) (hc : c ∈ host) : isBracket c = false := by
    simp [isBracket, ne_of_mem_of_not_mem hc opening, ne_of_mem_of_not_mem hc closing]
  have trimmed : Text.trim isBracket (char '[' :: host ++ [char ']']) = host :=
    trim_append (l := [char '[']) (r := [char ']']) (by simp [isBracket]) inside
      (by simp [isBracket])
  rw [unbracketed, if_pos (by simp), trimmed]

end Host

/-! ## The header -/

variable {host : Text}

/-- The two spellings of an address are the same in the header. -/
theorem hostHeader_brackets (colon : char ':' ∈ host)
    (opening : char '[' ∉ host) (port : Option Int) :
    hostHeader (char '[' :: host ++ [char ']']) port = hostHeader host port := by
  have bare : host.head? ≠ some (char '[') := fun head => opening (List.mem_of_head? head)
  have head : (char '[' :: host ++ [char ']']).head? = some (char '[') := rfl
  rw [hostHeader, if_pos head, hostHeader, if_neg bare, Host.bracketed_of_colon colon]

/-- The header brackets a host as a URL does, unless it is one with a colon that begins with a
bracket. -/
theorem hostHeader_eq_iff (host : Text) (port : Option Int) :
    hostHeader host port = Host.bracketed host ++ portSuffix port ↔
      ¬ (host.head? = some (char '[') ∧ char ':' ∈ host) := by
  rw [hostHeader, List.append_left_inj]
  by_cases head : host.head? = some (char '[')
  · rw [if_pos head, eq_comm, Host.bracketed_eq_self_iff, not_and, imp_iff_right head]
  · rw [if_neg head]
    exact iff_of_true rfl fun h => head h.1

theorem authority_of_host (u : Url) (host : Text) :
    ({ u with host := some host } : Url).authority =
      some (u.userInfo.elim [] (· ++ [char '@']) ++ (Host.bracketed host ++ portSuffix u.port)) :=
  congrArg some (List.append_assoc _ _ _)

/-- **A URL and the `Host` header agree on a host** unless it holds a colon and begins with a
bracket. Then the URL puts brackets around those that are there. -/
theorem authority_eq_hostHeader_iff (u : Url) (host : Text) :
    let user := u.userInfo.elim [] (· ++ [char '@'])
    let authority := ({ u with host := some host } : Url).authority
    (authority = some (user ++ hostHeader host u.port) ↔
      ¬ (host.head? = some (char '[') ∧ char ':' ∈ host)) ∧
    (host.head? = some (char '[') ∧ char ':' ∈ host →
      hostHeader host u.port = host ++ portSuffix u.port ∧
      authority = some (user ++ ((char '[' :: host ++ [char ']']) ++ portSuffix u.port))) := by
  intro user authority
  have printed : authority = _ := authority_of_host u host
  rw [printed]
  refine ⟨?_, fun ⟨head, colon⟩ => ⟨?_, ?_⟩⟩
  · rw [Option.some.injEq, List.append_right_inj, eq_comm]
    exact hostHeader_eq_iff host u.port
  · rw [hostHeader, if_pos head]
  · rw [Host.bracketed_of_colon colon]

/-- The URL of an address in brackets is printed with two pairs of them. -/
theorem authority_ne_hostHeader_bracketed :
    let u : Url := {
      scheme := some "ws".toText
      host := some "[::1]".toText
      port := some 80 }
    u.authority = some "[[::1]]:80".toText ∧
      hostHeader "[::1]".toText u.port = "[::1]:80".toText ∧
      u.authority ≠ some (hostHeader "[::1]".toText u.port) := by
  decide +kernel

/-! ## Parsed URLs -/

theorem Uri.HostForm.head?_ne (h : HostForm host) (colon : char ':' ∈ host) :
    host.head? ≠ some (char '[') :=
  head?_of_checkBracketedHost (h.literal colon)

/-- **A parsed URL agrees with the `Host` header** on its host. -/
theorem authority_of_parse {encode : HostEncoding} {s : Text} {u : Url} (names : encode.GivesNames)
    (parsed : Url.parseWith encode s = .ok u) (named : u.host = some host) :
    u.authority = some (u.userInfo.elim [] (· ++ [char '@']) ++ hostHeader host u.port) := by
  have form := (Url.normal_of_parseWith names parsed).host host named
  have header := (hostHeader_eq_iff host u.port).mpr fun h => form.head?_ne h.2 h.1
  have printed := authority_of_host u host
  rwa [← named, ← header] at printed

end Dialer
