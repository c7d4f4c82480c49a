import Dialer.Proofs.Resolver.Stages
import Dialer.Proofs.Uri.Ports
import Dialer.Session

/-!
# Validation and the single dial

A reference is refused before anything is done, or else dialled exactly once.

* `Refused` and `Accepted` say which references are refused, and for what reason, and which are
  not. Each reference is one or the other (`refused_or_accepted`, `Refused.not_accepted`).
* `DialsOnce` says that a run is a selection, some reports, and a single call of the selected
  factory.
* `resolve_ending` says how resolving ends: in a refusal, in the failure of the single call, with
  its socket, or without it because the port of the header cannot be written.
* `Accepted.lost` and `Ending.leaks_of_lost` say that the last happens, with a factory of the
  caller's own, and what becomes of the socket.
-/

namespace Dialer

open Dialer.Action

/-! ## Validation -/

/-- The failure of a URL without a host: that it has none, or that it cannot be printed to say
so. -/
def Url.hostFailure (u : Url) : Failure :=
  match u.print with
  | .ok location => .reference (.emptyHost location)
  | .error e => e

theorem Url.hostFailure_of_writable {u : Url} (writable : canWritePort u.port = true) :
    u.hostFailure = .reference (.emptyHost u.toText) := by
  rw [hostFailure, print_of_writable writable]

/-- The reference names no endpoint. The reference itself is at fault before its scheme, and its
scheme before its host. -/
inductive Refused (encode : HostEncoding) (r : Reference) : Failure → Prop
  | reference {e} (url : r.toUrl encode = .error e) : Refused encode r e
  | scheme {u e} (url : r.toUrl encode = .ok u) (scheme : isSecure u.scheme = .error e) :
      Refused encode r (.reference e)
  | host {u secure} (url : r.toUrl encode = .ok u) (scheme : isSecure u.scheme = .ok secure)
      (host : u.host.getD [] = []) : Refused encode r u.hostFailure

/-- The reference has a URL with a known scheme and a host. -/
structure Accepted (encode : HostEncoding) (r : Reference) (u : Url) (secure : Bool) (host : Text) :
    Prop where
  url : r.toUrl encode = .ok u
  scheme : isSecure u.scheme = .ok secure
  named : u.host = some host
  nonempty : host ≠ []

variable {encode : HostEncoding} {r : Reference} {u : Url} {secure : Bool} {host : Text}
    {e : Failure}

theorem Refused.not_accepted (h : Refused encode r e) : ¬ Accepted encode r u secure host := by
  rintro ⟨url, scheme, named, nonempty⟩
  cases h with
  | reference h => cases h.symm.trans url
  | scheme h h' =>
    obtain rfl := Except.ok.inj (h.symm.trans url)
    cases h'.symm.trans scheme
  | host h _ empty =>
    obtain rfl := Except.ok.inj (h.symm.trans url)
    rw [named] at empty
    exact nonempty empty

theorem Accepted.unique {u' : Url} {secure' : Bool} {host' : Text}
    (h : Accepted encode r u secure host) (h' : Accepted encode r u' secure' host') :
    u' = u ∧ secure' = secure ∧ host' = host := by
  obtain rfl := Except.ok.inj (h'.url.symm.trans h.url)
  exact ⟨rfl, Except.ok.inj (h'.scheme.symm.trans h.scheme),
    Option.some.inj (h'.named.symm.trans h.named)⟩

theorem refused_or_accepted (encode : HostEncoding) (r : Reference) :
    (∃ e, Refused encode r e) ∨ ∃ u secure host, Accepted encode r u secure host := by
  cases url : r.toUrl encode with
  | error e => exact Or.inl ⟨e, .reference url⟩
  | ok u =>
    cases scheme : isSecure u.scheme with
    | error e => exact Or.inl ⟨_, .scheme url scheme⟩
    | ok secure =>
      by_cases empty : u.host.getD [] = []
      · exact Or.inl ⟨_, .host url scheme empty⟩
      · obtain ⟨host, named⟩ : ∃ host, u.host = some host := by
          cases h : u.host with
          | none => simp [h] at empty
          | some host => exact ⟨host, rfl⟩
        rw [named] at empty
        exact Or.inr ⟨u, secure, host, url, scheme, named, empty⟩

/-- The endpoint of an accepted reference. -/
def Url.endpoint (u : Url) (secure : Bool) (host : Text) : Endpoint where
  secure
  host
  port := effectivePort u.port secure
  requestTarget := requestTarget (rootedPath u.path) u.query
  userInfo := u.userInfo

theorem Refused.ofReference (h : Refused encode r e) :
    Endpoint.ofReference encode r = .error e := by
  cases h with
  | reference url => simp [Endpoint.ofReference, url, Except.bind]
  | scheme url scheme =>
    simp [Endpoint.ofReference, url, Except.bind, Endpoint.ofUrl, scheme, Except.mapError, bind]
  | @host u secure url scheme empty =>
    have none : u.host = none ∨ u.host = some [] := by
      cases h : u.host with
      | none => exact Or.inl rfl
      | some host => exact Or.inr (by rw [h] at empty; exact congrArg some empty)
    have unnamed : Endpoint.ofUrl u = u.print.bind fun location =>
        .error (.reference (.emptyHost location)) := by
      rcases none with none | none
      all_goals
        simp [Endpoint.ofUrl, scheme, Except.mapError, bind, none, Except.bind, throw, throwThe,
          MonadExceptOf.throw]
    rw [Endpoint.ofReference, url, Url.hostFailure]
    refine unnamed.trans ?_
    cases u.print <;> rfl

theorem Accepted.ofReference (h : Accepted encode r u secure host) :
    Endpoint.ofReference encode r = .ok (u.endpoint secure host) := by
  obtain ⟨url, scheme, named, nonempty⟩ := h
  obtain ⟨c, s, rfl⟩ := List.exists_cons_of_ne_nil nonempty
  simp [Endpoint.ofReference, url, Except.bind, Endpoint.ofUrl, scheme, Except.mapError, bind,
    named, Url.endpoint, pure, Except.pure]

/-! ## Requests -/

/-- The requests to factories of the caller's that one call makes. -/
def Opener.requests (opener : Opener) (host : Text) (port : Int) : List Event :=
  match opener with
  | .supplied name _ _ => [.createSocket name host port]
  | _ => []

/-- Only factories of the caller's are requested, once each time. -/
theorem createSocket_requests (f : Factory) (host : Text) (port : Int) (p : Environment) :
    ((f.createSocket host port p).events.filter fun e => e.phase = .request) =
      f.opener.requests host port := by
  obtain ⟨origin, settings | ⟨settings, source⟩ | ⟨name, fault, faults⟩⟩ := f
  · rw [createSocket_plain]
    refine List.filter_eq_nil_iff.mpr fun e he => ?_
    rcases connect_phase settings host port p e he with h | h <;> simp [h]
  · refine List.filter_eq_nil_iff.mpr fun e he => ?_
    have within := keeps_createTlsSocket_within settings source host port p e he
    intro request
    simp [of_decide_eq_true request, tlsPhases] at within
  · rw [createSocket_supplied]
    cases fault <;> rfl

/-! ## Endings -/

/-- The run consists of a selection and reports, and then of a single call of the selected factory,
which ends as `call` does. -/
def DialsOnce {α : Type} (o : Overrides) (secure : Bool) (host : Text) (port : Int)
    (p : Environment) (call : Run Socket) (run : Run α) : Prop :=
  ∃ factory selection started q,
    o.select secure p = ⟨.ok factory, selection, q⟩ ∧
    (∀ e ∈ selection ++ started, e.phase = .report) ∧
    call = factory.createSocket host port q ∧
    run.events = selection ++ started ++ call.events ∧
    run.environment = call.environment ∧
    (run.events.filter fun e => e.phase = .request) = factory.opener.requests host port

/-- The call is settled by the overrides and the environment. -/
theorem DialsOnce.call_eq {α : Type} {o : Overrides} {port : Int} {p : Environment}
    {call : Run Socket} {run : Run α} (h : DialsOnce o secure host port p call run) :
    call = (o.factory p secure).createSocket host port (o.select secure p).environment := by
  obtain ⟨factory, selection, started, q, select, -, rfl, -⟩ := h
  obtain ⟨_, _, select', -⟩ := select_apply o secure p
  obtain ⟨outcome, -, -⟩ := Run.mk.inj (select.symm.trans select')
  obtain rfl := Except.ok.inj outcome
  rw [select]

/-- How resolving may end. -/
inductive Ending
  | refused
  | failed
  | connected
  /-- There is a socket but the port of the header cannot be written. -/
  | lost

/-- Resolving ends so. -/
def Ending.Holds (encode : HostEncoding) (o : Overrides) (r : Reference) (p : Environment) :
    Ending → Prop
  | refused => ∃ e, Refused encode r e ∧ resolve encode o r p = ⟨.error e, [], p⟩ ∧
      ∀ s : Session, s.encode = encode → s.overrides = o → (s.advance p (.resolve r)).2 = (s, p)
  | failed => ∃ u secure host call e, Accepted encode r u secure host ∧
      DialsOnce o secure host (effectivePort u.port secure) p call (resolve encode o r p) ∧
      call.outcome = .error e ∧ (resolve encode o r p).outcome = .error e
  | connected => ∃ u secure host call socket, Accepted encode r u secure host ∧
      DialsOnce o secure host (effectivePort u.port secure) p call (resolve encode o r p) ∧
      call.outcome = .ok socket ∧
      (resolve encode o r p).outcome = .ok {
        socket
        hostHeader := hostHeader host (some (effectivePort u.port secure))
        requestTarget := requestTarget (rootedPath u.path) u.query
        userInfo := u.userInfo
        secure
        host
        port := effectivePort u.port secure }
  | lost => ∃ u secure host call socket, Accepted encode r u secure host ∧
      DialsOnce o secure host (effectivePort u.port secure) p call (resolve encode o r p) ∧
      call.outcome = .ok socket ∧ ¬ (o.opener secure).BuiltIn ∧
      canWritePort (some (effectivePort u.port secure)) = false ∧
      (resolve encode o r p).outcome = .error .unwritable

theorem Refused.holds (h : Refused encode r e) (o : Overrides) (p : Environment) :
    Ending.refused.Holds encode o r p := by
  refine ⟨e, h, resolve_of_error h.ofReference o p, fun s uses same => ?_⟩
  have run : Step.run s (.resolve r) p = ⟨.error e, [], p⟩ := by
    rw [Step.run, map_apply, uses, same, resolve_of_error h.ofReference]
    rfl
  rw [Session.advance, run]

theorem Accepted.dialsOnce (h : Accepted encode r u secure host) (o : Overrides) (p : Environment) :
    ∃ call, DialsOnce o secure host (effectivePort u.port secure) p call (resolve encode o r p) ∧
      (resolve encode o r p).outcome = call.outcome.bind (u.endpoint secure host).handOver := by
  obtain ⟨selection, started, q, select, -, quiet, run⟩ :=
    dial_apply o (u.endpoint secure host) p
  rw [resolve_of_ok h.ofReference, run]
  refine ⟨_, ⟨_, selection, started, q, select, quiet, rfl, rfl, rfl, ?_⟩, rfl⟩
  have silent : ((selection ++ started).filter fun e => e.phase = .request) = [] :=
    List.filter_eq_nil_iff.mpr fun e he => by simp [quiet e he]
  rw [Run.events_after, List.filter_append, silent, List.nil_append]
  exact createSocket_requests _ _ _ q

/-- The ending by how the single call ends and how resolving does. -/
def Ending.ofOutcomes (call : Except Failure Socket) (resolved : Except Failure Target) : Ending :=
  match call, resolved with
  | .error _, _ => failed
  | .ok _, .ok _ => connected
  | .ok _, .error _ => lost

variable {o : Overrides} {p : Environment} {ending : Ending}

theorem Refused.ending_eq (h : Refused encode r e) (holds : ending.Holds encode o r p) :
    ending = .refused := by
  cases ending with
  | refused => rfl
  | failed | connected | lost =>
    obtain ⟨u, secure, host, _, _, accepted, -⟩ := holds
    exact absurd accepted h.not_accepted

theorem Accepted.ending_eq {call : Run Socket} (h : Accepted encode r u secure host)
    (dials : DialsOnce o secure host (effectivePort u.port secure) p call (resolve encode o r p))
    (holds : ending.Holds encode o r p) :
    ending = .ofOutcomes call.outcome (resolve encode o r p).outcome := by
  -- The reference has one URL, and the call made for it is settled.
  have only {u' secure' host' call'} (accepted : Accepted encode r u' secure' host')
      (dials' : DialsOnce o secure' host' (effectivePort u'.port secure') p call'
        (resolve encode o r p)) : call' = call := by
    obtain ⟨rfl, rfl, rfl⟩ := h.unique accepted
    exact dials'.call_eq.trans dials.call_eq.symm
  cases ending with
  | refused =>
    obtain ⟨_, refused, -⟩ := holds
    exact absurd h refused.not_accepted
  | failed =>
    obtain ⟨_, _, _, _, _, accepted, dials', called, -⟩ := holds
    rw [← only accepted dials', called, Ending.ofOutcomes]
  | connected =>
    obtain ⟨_, _, _, _, _, accepted, dials', called, outcome⟩ := holds
    rw [← only accepted dials', called, outcome, Ending.ofOutcomes]
  | lost =>
    obtain ⟨_, _, _, _, _, accepted, dials', called, -, -, outcome⟩ := holds
    rw [← only accepted dials', called, outcome, Ending.ofOutcomes]

/-- An accepted reference is dialled, whatever comes of it. -/
theorem Accepted.exists_ending (h : Accepted encode r u secure host) (o : Overrides)
    (p : Environment) : ∃ ending : Ending, ending.Holds encode o r p := by
  obtain ⟨call, dials, outcome⟩ := h.dialsOnce o p
  cases called : call.outcome with
  | error e =>
    rw [called] at outcome
    exact ⟨.failed, u, secure, host, call, e, h, dials, called, outcome⟩
  | ok socket =>
    rw [called] at outcome
    cases writable : canWritePort (some (effectivePort u.port secure)) with
    | true =>
      have handed := Endpoint.handOver_of_writable (e := u.endpoint secure host) writable socket
      exact ⟨.connected, u, secure, host, call, socket, h, dials, called, outcome.trans handed⟩
    | false =>
      have lost := Endpoint.handOver_of_unwritable (e := u.endpoint secure host) writable socket
      have own : ¬ (o.opener secure).BuiltIn := by
        intro builtIn
        rw [dials.call_eq] at called
        rw [← o.opener_factory p] at builtIn
        cases writable.symm.trans (canWritePort_of_createSocket builtIn called)
      exact ⟨.lost, u, secure, host, call, socket, h, dials, called, own, writable,
        outcome.trans lost⟩

/-! ## Sockets that are lost -/

/-- A factory of the caller's that does not fail loses its socket if the port has too many
digits. -/
theorem Accepted.lost {name : Text} {faults : SocketFaults} (h : Accepted encode r u secure host)
    (opener : o.opener secure = .supplied name none faults)
    (unwritable : canWritePort (some (effectivePort u.port secure)) = false) :
    Ending.lost.Holds encode o r p := by
  obtain ⟨call, dials, outcome⟩ := h.dialsOnce o p
  obtain ⟨origin, factory⟩ := Overrides.exists_factory opener p
  obtain ⟨socket, called⟩ : ∃ socket, call.outcome = .ok socket := by
    rw [dials.call_eq, factory, createSocket_supplied]
    exact ⟨_, rfl⟩
  have own : ¬ (o.opener secure).BuiltIn := by
    rw [opener]
    exact id
  have handing := Endpoint.handOver_of_unwritable (e := u.endpoint secure host) unwritable socket
  rw [called] at outcome
  exact ⟨u, secure, host, call, socket, h, dials, called, own, unwritable, outcome.trans handing⟩

/-- A socket that cannot be handed over is neither returned nor closed. -/
theorem Ending.leaks_of_lost (h : lost.Holds encode o r p) :
    (resolve encode o r p).environment.sockets = p.sockets + 1 ∧
      ∀ socket, .close socket ∉ (resolve encode o r p).events := by
  obtain ⟨u, secure, host, call, socket, -, dials, called, own, -⟩ := h
  obtain ⟨factory, selection, started, q, select, quiet, rfl, events, environment, -⟩ := dials
  obtain ⟨_, q', select', -, selected⟩ := select_apply o secure p
  obtain ⟨outcome, -, rfl⟩ := Run.mk.inj (select.symm.trans select')
  obtain rfl := Except.ok.inj outcome
  rw [← o.opener_factory p] at own
  clear select select' outcome
  generalize o.factory p secure = f at own called events environment
  obtain ⟨origin, settings | ⟨settings, source⟩ | ⟨name, fault, faults⟩⟩ := f
  · exact absurd trivial own
  · exact absurd trivial own
  · rw [createSocket_supplied] at called events environment
    cases fault with
    | some f => cases called
    | none =>
      refine ⟨?_, fun socket closed => ?_⟩
      · rw [environment, ← selected.sockets]
        rfl
      · rw [events] at closed
        rcases List.mem_append.mp closed with reported | requested
        · cases quiet _ reported
        · cases List.mem_singleton.mp requested

/-! ## All endings -/

/-- **Validation comes first and an accepted reference is dialled once.** Resolving ends in exactly
one of four ways: in the refusal of the reference, with nothing done, in the failure of the single
call of the selected factory, with the socket of that call, or without it because the port has too
many digits for the header, which takes a factory of the caller's own. -/
theorem resolve_ending (encode : HostEncoding) (o : Overrides) (r : Reference) (p : Environment) :
    ∃! ending : Ending, ending.Holds encode o r p := by
  rcases refused_or_accepted encode r with ⟨e, refused⟩ | ⟨u, secure, host, accepted⟩
  · exact ⟨.refused, refused.holds o p, fun _ holds => refused.ending_eq holds⟩
  · obtain ⟨ending, holds⟩ := accepted.exists_ending o p
    obtain ⟨call, dials, -⟩ := accepted.dialsOnce o p
    refine ⟨ending, holds, fun _ holds' => ?_⟩
    exact (accepted.ending_eq dials holds').trans (accepted.ending_eq dials holds).symm

/-- The least number with more than `maxDigits` digits, as a port for a factory of the caller's that
never fails. The call succeeds and resolving does not. -/
theorem resolve_loses_longPort :
    let factory : Factory := ⟨.made 0, .supplied "f".toText none fun _ => none⟩
    let o : Overrides := { plainFactory := some factory }
    let port : Nat := 10 ^ Text.maxDigits
    let u : Url := { scheme := some "ws".toText, host := some "h".toText, port := some port }
    let p : Environment := { network := .ofTable [], platform := {}, logging := ⟨10, 30, []⟩ }
    let run := resolve .asciiOnly o (.url u) p
    (∀ ending : Ending, ending.Holds .asciiOnly o (.url u) p ↔ ending = .lost) ∧
      run.outcome = .error .unwritable ∧ run.environment.sockets = 1 ∧
      ∀ socket, .close socket ∉ run.events := by
  intro factory o port u p run
  have accepted : Accepted .asciiOnly (.url u) u false "h".toText :=
    ⟨rfl, rfl, rfl, List.cons_ne_nil _ _⟩
  have tooLong : Text.isWritable port = false :=
    Bool.eq_false_iff.mpr fun writable => (Text.isWritable_iff.mp writable).false
  have lost : Ending.lost.Holds .asciiOnly o (.url u) p := accepted.lost rfl tooLong
  obtain ⟨created, unclosed⟩ := Ending.leaks_of_lost lost
  obtain ⟨_, _, _, call, _, accepted', dials, _, -, -, outcome⟩ := id lost
  refine ⟨fun ending => ⟨fun holds => ?_, fun same => same ▸ lost⟩, outcome, created, unclosed⟩
  exact (accepted'.ending_eq dials holds).trans (accepted'.ending_eq dials lost).symm

end Dialer
