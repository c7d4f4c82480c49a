import Dialer.Proofs.Host.Bracketing
import Dialer.Proofs.Resolver.Handshake
import Dialer.Proofs.Resolver.Ownership

/-!
# Two spellings of an address

A URL names an IPv6 address with brackets or without them. Resolving does the same for both, except
that log records and the target show the host as it is given.

* `Agree` says that two actions do the same apart from the texts of log records. So do sequences and
  clean-ups of actions that do.
* `agree_createSocket` says that the factories of the library depend on a host only through its bare
  form.
* `resolve_spellings` compares the runs for the two spellings.
-/

namespace Dialer

open Dialer.Action

/-! ## The texts of log records aside -/

/-- The event, without its text if it is a report. -/
def Event.muted : Event → Event
  | .log r => .log { r with message := "" }
  | .stderr _ => .stderr ""
  | e => e

theorem Sink.muted_write (sink : Sink) (level : Level) (logger : Logger)
    (message message' : Text) :
    (sink.write ⟨level, logger, message⟩).muted = (sink.write ⟨level, logger, message'⟩).muted := by
  cases sink <;> rfl

/-- The run without the texts of its reports. -/
def Run.muted {α : Type} (r : Run α) : Run α := { r with events := r.events.map Event.muted }

namespace Action

/-- The actions do the same in every environment, the texts of reports aside. -/
def Agree {α : Type} (x y : Action α) : Prop := ∀ p, (x p).muted = (y p).muted

variable {α β : Type} {x y : Action α}

theorem Agree.refl (x : Action α) : Agree x x := fun _ => rfl

theorem Agree.bind {f g : α → Action β} (h : Agree x y)
    (rest : ∀ p a, (x p).outcome = .ok a → Agree (f a) (g a)) : Agree (x >>= f) (y >>= g) := by
  intro p
  have first := h p
  rw [bind_apply, bind_apply]
  rcases run : x p with ⟨outcome, before, q⟩
  rcases run' : y p with ⟨outcome', before', q'⟩
  rw [run, run'] at first
  obtain ⟨rfl, events, rfl⟩ := Run.mk.inj first
  cases outcome with
  | error e => exact congrArg (Run.mk _ · _) events
  | ok a =>
    obtain ⟨outcome, later, environment⟩ := Run.mk.inj (rest p a (congrArg Run.outcome run) q)
    simp only [Run.muted, List.map_append, outcome, environment]
    exact congrArg₂ (fun s t => Run.mk _ (s ++ t) _) events later

theorem Agree.attempt (h : Agree x y) : Agree x.attempt y.attempt := by
  intro p
  obtain ⟨outcome, events, environment⟩ := Run.mk.inj (h p)
  rw [attempt_apply, attempt_apply, outcome, environment]
  exact congrArg (Run.mk _ · _) events

theorem Agree.onFailure {f g : Failure → Action Unit} (h : Agree x y)
    (cleanUp : ∀ e, Agree (f e) (g e)) : Agree (x.onFailure f) (y.onFailure g) := by
  refine h.attempt.bind fun _ outcome _ => ?_
  cases outcome with
  | ok a => exact .refl _
  | error e => exact (cleanUp e).bind fun _ _ _ => .refl _

theorem agree_report (level : Level) (logger : Logger) (message message' : Text) :
    Agree (report level logger message) (report level logger message') := by
  intro p
  have admits : p.logging.admits ⟨level, logger, message⟩ =
      p.logging.admits ⟨level, logger, message'⟩ := rfl
  simp only [report, Run.muted, admits]
  split
  · simp only [List.map_map]
    refine congrArg (Run.mk _ · _) (List.map_congr_left fun sink _ => ?_)
    exact sink.muted_write level logger message message'
  · rfl

end Action

/-! ## Factories -/

section

variable {host host' : Text}

theorem connect_congr (same : Host.unbracketed host = Host.unbracketed host')
    (settings : ConnectSettings) (port : Int) :
    connect settings host port = connect settings host' port := by
  rw [connect, same, connect]

theorem agree_createTlsSocket (same : Host.unbracketed host = Host.unbracketed host')
    (settings : ConnectSettings) (source : ContextSource) (port : Int) :
    Agree (createTlsSocket settings source host port)
      (createTlsSocket settings source host' port) := by
  unfold createTlsSocket
  rw [connect_congr same]
  refine (Agree.refl _).bind fun _ c _ => (Agree.refl _).bind fun _ raw _ => ?_
  have wrap : Tls.wrapConnected c raw (some host) = Tls.wrapConnected c raw (some host') := by
    rw [Tls.wrapConnected, Option.map_some, same]
    rfl
  rw [wrap]
  refine (Agree.refl _).onFailure fun e => ?_
  split
  · exact agree_report _ _ _ _
  · exact .refl _

/-- **A factory of the library depends on a host only through its bare form.** -/
theorem agree_createSocket {f : Factory} (builtIn : f.opener.BuiltIn)
    (same : Host.unbracketed host = Host.unbracketed host') (port : Int) :
    Agree (f.createSocket host port) (f.createSocket host' port) := by
  rcases f with ⟨origin, opener⟩
  cases opener with
  | plain settings =>
    change Agree (_ <$> _) (_ <$> _)
    rw [connect_congr same]
    exact .refl _
  | tls settings source => exact agree_createTlsSocket same settings source port
  | supplied => exact builtIn.elim

end

/-! ## Endpoints -/

/-- The opening of the socket of an endpoint. -/
def Endpoint.opening (o : Overrides) (e : Endpoint) : Action Socket := do
  let factory ← o.select e.secure
  reportStart e
  factory.createSocket e.host e.port

theorem dial_eq_andThen (o : Overrides) (e : Endpoint) (p : Environment) :
    dial o e p = (e.opening o p).andThen e.handOver := by
  rw [← bind_ofExcept_apply]
  simp only [dial, Endpoint.opening, bind_assoc]

theorem agree_reportStart (e : Endpoint) (host : Text) :
    Agree (reportStart { e with host }) (reportStart e) := by
  unfold reportStart
  split
  next => exact agree_report _ _ _ _
  next => exact .refl _

theorem agree_opening {o : Overrides} {e : Endpoint} {host : Text}
    (builtIn : (o.opener e.secure).BuiltIn)
    (same : Host.unbracketed host = Host.unbracketed e.host) :
    Agree (Endpoint.opening o { e with host }) (e.opening o) := by
  refine (Agree.refl _).bind fun p f selected => ?_
  obtain ⟨_, _, run, -⟩ := select_apply o e.secure p
  obtain rfl : o.factory p e.secure = f :=
    Except.ok.inj ((congrArg Run.outcome run).symm.trans selected)
  rw [← o.opener_factory p] at builtIn
  exact (agree_reportStart e host).bind fun _ _ _ => agree_createSocket builtIn same e.port

/-! ## Spellings -/

/-- The spelling with brackets shows in the host alone. -/
theorem Endpoint.handOver_brackets {e : Endpoint} (colon : char ':' ∈ e.host)
    (opening : char '[' ∉ e.host) (socket : Socket) :
    Endpoint.handOver { e with host := char '[' :: e.host ++ [char ']'] } socket =
      (e.handOver socket).map fun t => { t with host := char '[' :: e.host ++ [char ']'] } := by
  rw [handOver_eq, handOver_eq]
  simp only [target, hostHeader_brackets colon opening]
  split <;> rfl

/-- **Both spellings of an address are resolved alike**, by the factories of the library. The events
are the same apart from the texts of log records, and so is what is left behind. Either both runs
end in the same failure, or their targets differ in the host alone, which is shown as given. -/
theorem resolve_spellings (encode : HostEncoding) (o : Overrides)
    (builtIn : ∀ secure, (o.opener secure).BuiltIn) (u : Url) (host : Text)
    (colon : char ':' ∈ host) (opening : char '[' ∉ host) (closing : char ']' ∉ host)
    (p : Environment) :
    let bare := resolve encode o (.url { u with host := some host }) p
    let bracketed :=
      resolve encode o (.url { u with host := some (char '[' :: host ++ [char ']']) }) p
    bracketed.events.map Event.muted = bare.events.map Event.muted ∧
      bracketed.environment = bare.environment ∧
      match bare.outcome with
      | .error e => bracketed.outcome = .error e
      | .ok t => bracketed.outcome = .ok { t with host := char '[' :: host ++ [char ']'] } := by
  intro bare bracketed
  cases scheme : isSecure u.scheme with
  | error e =>
    have refused (host : Text) : resolve encode o (.url { u with host := some host }) p =
        ⟨.error (.reference e), [], p⟩ := by
      have refusal : Refused encode (.url { u with host := some host }) (.reference e) :=
        .scheme rfl scheme
      exact resolve_of_error refusal.ofReference o p
    simp only [bare, bracketed, refused, and_self]
  | ok secure =>
    have dialled {host : Text} (nonempty : host ≠ []) :
        resolve encode o (.url { u with host := some host }) p =
          ((u.endpoint secure host).opening o p).andThen (u.endpoint secure host).handOver := by
      have accepted : Accepted encode (.url { u with host := some host }) _ secure host :=
        ⟨rfl, scheme, rfl, nonempty⟩
      rw [resolve_of_ok accepted.ofReference, dial_eq_andThen]
      rfl
    have same : Host.unbracketed (char '[' :: host ++ [char ']']) = Host.unbracketed host := by
      rw [Host.unbracketed_brackets opening closing,
        Host.unbracketed_of_head fun head => opening (List.mem_of_head? head)]
    have agree := agree_opening (e := u.endpoint secure host) (builtIn secure) same p
    obtain ⟨outcome, events, environment⟩ := Run.mk.inj agree
    have start : bare = _ := dialled (List.ne_nil_of_mem colon)
    have start' : bracketed = _ := dialled (List.cons_ne_nil _ _)
    have spelled : u.endpoint secure (char '[' :: host ++ [char ']']) =
        { u.endpoint secure host with host := char '[' :: host ++ [char ']'] } := rfl
    rw [start, start', spelled]
    refine ⟨events, environment, ?_⟩
    rw [Run.andThen, Run.andThen, outcome]
    cases ((u.endpoint secure host).opening o p).outcome with
    | error e => rfl
    | ok socket =>
      have handed := Endpoint.handOver_brackets (e := u.endpoint secure host) colon opening socket
      simp only [Except.bind]
      cases result : (u.endpoint secure host).handOver socket <;>
        exact handed.trans (by rw [result]; rfl)

/-- The loopback address, over TLS with the process-wide factory. The log records differ. -/
theorem resolve_spellings_loopback :
    let o : Overrides := {}
    let u : Url := { scheme := some "wss".toText, path := some "/chat".toText }
    let host : Text := "::1".toText
    let p : Environment :=
      { network := refusingFirst, platform := {}, logging := ⟨10, 30, [.listener]⟩ }
    let bare := resolve .asciiOnly o (.url { u with host := some host }) p
    let bracketed :=
      resolve .asciiOnly o (.url { u with host := some (char '[' :: host ++ [char ']']) }) p
    (∀ secure, (o.opener secure).BuiltIn) ∧ char ':' ∈ host ∧ char '[' ∉ host ∧ char ']' ∉ host ∧
    bracketed.events ≠ bare.events ∧
    bracketed.events.map Event.muted = bare.events.map Event.muted ∧
    bracketed.environment = bare.environment ∧
    ∃ t, bare.outcome = .ok t ∧ t.hostHeader = "[::1]:443".toText ∧
      bracketed.outcome = .ok { t with host := char '[' :: host ++ [char ']'] } := by
  intro o u host p bare bracketed
  have builtIn : ∀ secure, (o.opener secure).BuiltIn := by
    intro secure
    cases secure <;> trivial
  have colon : char ':' ∈ host := by decide
  have opening : char '[' ∉ host := by decide
  have closing : char ']' ∉ host := by decide
  obtain ⟨events, environment, outcome⟩ :=
    resolve_spellings .asciiOnly o builtIn u host colon opening closing p
  have differ : bracketed.events ≠ bare.events := by decide +kernel
  have header : bare.outcome.toOption.map Target.hostHeader = some "[::1]:443".toText := by
    decide +kernel
  refine ⟨builtIn, colon, opening, closing, differ, events, environment, ?_⟩
  cases result : bare.outcome with
  | error e =>
    rw [result] at header
    cases header
  | ok t =>
    rw [result] at header
    have same : resolve .asciiOnly o (.url { u with host := some host }) p = bare := rfl
    rw [same, result] at outcome
    exact ⟨t, rfl, Option.some.inj header, outcome⟩

end Dialer
