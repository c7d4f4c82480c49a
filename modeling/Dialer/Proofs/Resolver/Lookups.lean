import Dialer.Proofs.Host.Bracketing
import Dialer.Proofs.Resolver.Assembly
import Dialer.Proofs.Resolver.Ownership
import Dialer.Proofs.Uri.StrayBrackets

/-!
# What is looked up

Resolving looks up one name, the bare form of the host that the reference was accepted for.

* `lookup_mem_resolve_iff` says which lookups a run makes.
* `Host.BracketsOnly` holds of the hosts that are not empty but have an empty bare form
  (`Host.unbracketed_eq_nil_iff`). Parsing gives no such host (`Accepted.bracketsOnly`).
* `lookup_empty_iff` says that such a host in a URL is the only way to look up the empty name.
-/

namespace Dialer

open Dialer.Action

variable {encode : HostEncoding} {p : Environment} {name host : Text} {port n : Int}

/-! ## Lookups of a run -/

/-- A connection makes one lookup. -/
theorem lookup_mem_connect_iff {settings : ConnectSettings} {run : Run RawSocket}
    (connected : connect settings host port p = run) :
    .lookup name n ∈ run.events ↔ name = Host.unbracketed host ∧ n = port := by
  rw [← connected, connect_apply]
  split
  next entries _ =>
    rw [Run.events_after, List.mem_append, List.mem_singleton, Event.lookup.injEq]
    refine or_iff_left fun attempted => ?_
    have socket := (attempts_tryEntries settings .noAddress entries p).phase _ attempted
    cases socket
  next => rw [List.mem_singleton, Event.lookup.injEq]

/-- The factory gets as far as a lookup. One for TLS needs its context first. -/
def Opener.LooksUp (opener : Opener) (p : Environment) : Prop :=
  match opener with
  | .plain _ => True
  | .tls _ source => ∃ c, (source.context p).outcome = .ok c
  | .supplied .. => False

theorem not_lookup_mem_of_reports {events : List Event} (only : ∀ e ∈ events, e.phase = .report) :
    .lookup name n ∉ events := by
  intro mem
  cases only _ mem

theorem not_lookup_mem_context (source : ContextSource) :
    .lookup name n ∉ (source.context p).events := by
  intro mem
  have within : Phase.lookup ∈ [Phase.context, .report] := keeps_context_within source p _ mem
  exact absurd within (by decide)

theorem TlsCreation.lookup_mem_iff {settings : ConnectSettings} {source : ContextSource}
    {run : Run Socket} (h : TlsCreation settings source host port p run) :
    .lookup name n ∈ run.events ↔
      name = Host.unbracketed host ∧ n = port ∧ ∃ c, (source.context p).outcome = .ok c := by
  have building : .lookup name n ∉ (source.context p).events := not_lookup_mem_context source
  cases h with
  | noContext context =>
    rw [context] at building ⊢
    refine iff_of_false building ?_
    rintro ⟨-, -, c, built⟩
    cases built
  | @unconnected c built q e dialled r context connected =>
    have dialling : .lookup name n ∈ dialled ↔ _ := lookup_mem_connect_iff connected
    rw [context] at building ⊢
    rw [List.mem_append, or_iff_right building, dialling]
    simp
  | @wrapped c built q raw dialled r context connected =>
    have dialling : .lookup name n ∈ dialled ↔ _ := lookup_mem_connect_iff connected
    rw [context] at building ⊢
    rw [List.mem_append, or_iff_right building, List.mem_append, dialling]
    simp
  | @unwrapped c built q raw dialled r f reports context connected _ only =>
    have dialling : .lookup name n ∈ dialled ↔ _ := lookup_mem_connect_iff connected
    have reported : .lookup name n ∉ reports := not_lookup_mem_of_reports only
    rw [context] at building ⊢
    rw [List.mem_append, or_iff_right building, List.mem_append, dialling]
    simp [reported]

/-- A factory makes one lookup if it gets as far as that. -/
theorem lookup_mem_createSocket_iff (f : Factory) :
    .lookup name n ∈ (f.createSocket host port p).events ↔
      name = Host.unbracketed host ∧ n = port ∧ f.opener.LooksUp p := by
  obtain ⟨origin, settings | ⟨settings, source⟩ | ⟨supplied, fault, faults⟩⟩ := f
  · rw [createSocket_plain]
    have dialling : .lookup name n ∈ ((connect settings host port p).map Socket.plain).events ↔ _ :=
      lookup_mem_connect_iff rfl
    simpa [Opener.LooksUp] using dialling
  · exact (tlsCreation_createTlsSocket settings source host port p).lookup_mem_iff
  · rw [createSocket_supplied]
    cases fault <;> simp [Opener.LooksUp]

variable {r : Reference} {u : Url} {secure : Bool}

/-- **What a run looks up** is the bare form of the host that the reference was accepted for, with
the port that goes with it, if the selected factory gets as far as that. -/
theorem lookup_mem_resolve_iff (o : Overrides) :
    .lookup name n ∈ (resolve encode o r p).events ↔
      ∃ u secure host, Accepted encode r u secure host ∧
      name = Host.unbracketed host ∧ n = effectivePort u.port secure ∧
      (o.opener secure).LooksUp (o.select secure p).environment := by
  rcases refused_or_accepted encode r with ⟨e, refused⟩ | ⟨u, secure, host, accepted⟩
  · rw [resolve_of_error refused.ofReference]
    refine iff_of_false List.not_mem_nil ?_
    rintro ⟨u, secure, host, accepted, -⟩
    exact refused.not_accepted accepted
  · obtain ⟨selection, started, q, select, -, quiet, run⟩ :=
      dial_apply o (u.endpoint secure host) p
    have selected : o.select secure p = ⟨.ok (o.factory p secure), selection, q⟩ := select
    rw [resolve_of_ok accepted.ofReference, run, Run.events_after, List.mem_append,
      or_iff_right (not_lookup_mem_of_reports quiet)]
    refine Iff.trans (lookup_mem_createSocket_iff (o.factory p secure)) ?_
    rw [o.opener_factory]
    constructor
    · rintro ⟨bare, same, looksUp⟩
      exact ⟨u, secure, host, accepted, bare, same, by rwa [selected]⟩
    · rintro ⟨u', secure', host', accepted', bare, same, looksUp⟩
      obtain ⟨rfl, rfl, rfl⟩ := accepted.unique accepted'
      rw [selected] at looksUp
      exact ⟨bare, same, looksUp⟩

/-! ## Hosts with an empty bare form -/

/-- The host begins with an opening bracket and is made of brackets. -/
def Host.BracketsOnly (host : Text) : Prop :=
  host.head? = some (char '[') ∧ ∀ c ∈ host, Host.isBracket c = true

theorem Host.unbracketed_eq_nil_iff :
    Host.unbracketed host = [] ↔ host = [] ∨ Host.BracketsOnly host := by
  unfold Host.unbracketed
  split
  next head =>
    have nonempty : host ≠ [] := List.ne_nil_of_mem (List.mem_of_head? head)
    rw [Text.trim_eq_nil_iff, or_iff_right nonempty, Host.BracketsOnly, and_iff_right head]
  next head =>
    refine (or_iff_left ?_).symm
    exact fun only => head only.1

/-- Only a URL that has not been parsed is accepted for a host with an empty bare form. -/
theorem Accepted.bracketsOnly (names : encode.GivesNames)
    (accepted : Accepted encode r u secure host)
    (bare : Host.unbracketed host = []) : r = .url u ∧ Host.BracketsOnly host := by
  have only : Host.BracketsOnly host :=
    (Host.unbracketed_eq_nil_iff.mp bare).resolve_left accepted.nonempty
  refine ⟨?_, only⟩
  by_contra textual
  have parsed : ∃ s, Url.parseWith encode s = .ok u := by
    apply Reference.exists_parse _ accepted.url
    rintro u' rfl
    exact textual (congrArg Reference.url (Except.ok.inj accepted.url))
  obtain ⟨s, parsed⟩ := parsed
  exact Url.head?_of_parseWith names parsed accepted.named only.1

/-- **Only a URL whose host is nothing but brackets makes a run look up the empty name**, and it
does so whenever the selected factory gets as far as a lookup. Any other reference whose host has an
empty bare form is refused before anything is done. -/
theorem lookup_empty_iff (names : encode.GivesNames) (o : Overrides) (r : Reference)
    (p : Environment) (port : Int) :
    (.lookup [] port ∈ (resolve encode o r p).events ↔ ∃ u secure host, r = .url u ∧
      isSecure u.scheme = .ok secure ∧ u.host = some host ∧ Host.BracketsOnly host ∧
      port = effectivePort u.port secure ∧
      (o.opener secure).LooksUp (o.select secure p).environment) ∧
    ∀ u secure, r.toUrl encode = .ok u → isSecure u.scheme = .ok secure →
      Host.unbracketed (u.host.getD []) = [] →
      (r = .url u ∧ Host.BracketsOnly (u.host.getD [])) ∨
        resolve encode o r p = ⟨.error u.hostFailure, [], p⟩ := by
  constructor
  · rw [lookup_mem_resolve_iff]
    constructor
    · rintro ⟨u, secure, host, accepted, bare, same, looksUp⟩
      obtain ⟨url, only⟩ := accepted.bracketsOnly names bare.symm
      exact ⟨u, secure, host, url, accepted.scheme, accepted.named, only, same, looksUp⟩
    · rintro ⟨u, secure, host, rfl, scheme, named, only, same, looksUp⟩
      have nonempty : host ≠ [] := List.ne_nil_of_mem (List.mem_of_head? only.1)
      have bare : Host.unbracketed host = [] := Host.unbracketed_eq_nil_iff.mpr (Or.inr only)
      exact ⟨u, secure, host, ⟨rfl, scheme, named, nonempty⟩, bare.symm, same, looksUp⟩
  · intro u secure url scheme bare
    by_cases empty : u.host.getD [] = []
    · have refused : Refused encode r u.hostFailure := .host url scheme empty
      exact Or.inr (resolve_of_error refused.ofReference o p)
    · obtain ⟨host, named⟩ : ∃ host, u.host = some host :=
        Option.ne_none_iff_exists'.mp fun none => empty (by rw [none]; rfl)
      rw [named, Option.getD_some] at bare empty ⊢
      have accepted : Accepted encode r u secure host := ⟨url, scheme, named, empty⟩
      exact Or.inl (accepted.bracketsOnly names bare)

/-- A bracket alone is all it takes, over the process-wide factory. -/
theorem lookup_empty_bracket :
    let r : Reference :=
      .url { scheme := some "ws".toText, host := some "[".toText, port := some 7 }
    let p : Environment :=
      { network := refusingFirst, platform := {}, logging := ⟨10, 30, [.listener]⟩ }
    HostEncoding.asciiOnly.GivesNames ∧ .lookup [] 7 ∈ (resolve .asciiOnly {} r p).events := by
  intro r p
  have names := HostEncoding.givesNames_asciiOnly
  have only : Host.BracketsOnly "[".toText := by
    refine ⟨rfl, fun c hc => ?_⟩
    obtain rfl : c = '[' := by simpa [String.toText] using hc
    rfl
  refine ⟨names, (lookup_empty_iff names {} r p 7).1.mpr ?_⟩
  have opens :
      (({} : Overrides).opener false).LooksUp (({} : Overrides).select false p).environment :=
    True.intro
  exact ⟨_, false, "[".toText, rfl, rfl, rfl, only, by decide, opens⟩

/-- Two brackets with nothing between them are dialled, over the process-wide factory. -/
theorem lookup_empty_brackets :
    let o : Overrides := {}
    let u : Url := { scheme := some "ws".toText, host := some "[]".toText }
    let p : Environment :=
      { network := refusingFirst, platform := {}, logging := ⟨10, 30, [.listener]⟩ }
    (∀ secure, (o.opener secure).BuiltIn) ∧ Host.unbracketed "[]".toText = [] ∧
      .lookup [] 80 ∈ (resolve .asciiOnly o (.url u) p).events ∧
      resolve .asciiOnly o (.url u) p ≠ ⟨.error (.reference (.emptyHost u.toText)), [], p⟩ := by
  intro o u p
  have builtIn : ∀ secure, (o.opener secure).BuiltIn := by
    intro secure
    cases secure <;> trivial
  have dialled : .lookup [] 80 ∈ (resolve .asciiOnly o (.url u) p).events := by decide +kernel
  refine ⟨builtIn, by decide, dialled, ?_⟩
  intro refused
  rw [refused] at dialled
  cases dialled

end Dialer
