import Dialer.Proofs.Connect.Lifetimes
import Dialer.Proofs.Resolver.Stages

/-!
# Ownership of sockets

Every socket that resolving creates is closed or handed out, on a network whose sockets fail only
with faults of the operating system and always close.

* `Attempts.sequential`, `connect_sequential` and `TlsCreation.sequential` say that each stage
  leaves the lifetimes of sockets one after the other, up to the one that it hands on.
* `resolve_closes` is what that means for a whole run.
-/

namespace Dialer

open Dialer.Action

variable {encode : HostEncoding} {p : Environment}

/-! ## Networks -/

/-- All sockets of the network are such that connecting recovers from their faults. -/
def Network.Recoverable (network : Network) : Prop :=
  ∀ host port entries, network host port = .found entries →
    ∀ entry ∈ entries, Dialer.Recoverable entry.faults

/-! ## Connections -/

theorem Event.SetsUp.uses {n : Nat} {e : Event} (h : e.SetsUp n) : e.Uses n := by
  cases h <;> exact ⟨rfl, rfl⟩

theorem Entry.uses_of_mem_events {entry : Entry} {settings : ConnectSettings} {e : Event}
    (h : e ∈ ((entry.socket p).plan settings).events) : e.Uses (p.sockets + 1) :=
  (RawSocket.setsUp_of_mem_events h).uses

/-- The socket that a connection hands on. -/
def connected? (outcome : Except Failure RawSocket) : Option Nat :=
  outcome.toOption.map RawSocket.number

/-- Attempts close every socket but the one that they end with. -/
theorem Attempts.sequential {settings : ConnectSettings} {last : Failure} {entries : List Entry}
    {run : Run RawSocket} (h : Attempts settings last entries p run)
    (recoverable : ∀ entry ∈ entries, Recoverable entry.faults) :
    Sequential p.sockets run.events run.environment.sockets (connected? run.outcome) := by
  induction h with
  | exhausted => exact .nil
  | uncreated create os rest ih =>
    exact .idle ⟨rfl, rfl⟩ (ih fun entry he => recoverable entry (List.mem_cons_of_mem _ he))
  | uncreatedFatally create os =>
    have os' := (recoverable _ List.mem_cons_self).os _ _ create
    cases os'.symm.trans os
  | @connected last entry entries p create fine =>
    exact .held rfl fun e he => Entry.uses_of_mem_events he
  | @closed last entry entries p f run create fault os close rest ih =>
    rw [Run.events_after, List.append_assoc, Entry.events, List.cons_append]
    refine .closed rfl (fun e he => Entry.uses_of_mem_events he) (decide_eq_true rfl) ?_
    exact ih fun entry he => recoverable entry (List.mem_cons_of_mem _ he)
  | closedFatally create fault os close =>
    cases (recoverable _ List.mem_cons_self).close.symm.trans close
  | failedFatally create fault os =>
    obtain ⟨step, -, -, fault⟩ := RawSocket.fault_of_plan fault
    have os' := (recoverable _ List.mem_cons_self).os _ _ fault
    cases os'.symm.trans os

theorem connect_sequential (network : p.network.Recoverable) (settings : ConnectSettings)
    (host : Text) (port : Int) :
    Sequential p.sockets (connect settings host port p).events
      (connect settings host port p).environment.sockets
      (connected? (connect settings host port p).outcome) := by
  rw [connect_apply]
  cases found : p.network (Host.unbracketed host) port with
  | failed f => exact .idle ⟨rfl, rfl⟩ .nil
  | found entries =>
    have attempts := attempts_tryEntries settings .noAddress entries p
    exact .idle ⟨rfl, rfl⟩ (attempts.sequential (network _ _ entries found))

/-! ## Handshakes -/

theorem Event.idle_of_phase {e : Event} (h : e.phase = .context ∨ e.phase = .report) :
    e.Idle := by
  constructor <;> cases e <;> first | rfl | (rcases h with h | h <;> cases h)

/-- The socket that a factory hands on. -/
def handed? (outcome : Except Failure Socket) : Option Nat :=
  outcome.toOption.map fun socket => socket.raw.number

/-- Opening a socket with TLS closes every socket but the one that it wraps. -/
theorem TlsCreation.sequential {settings : ConnectSettings} {source : ContextSource} {host : Text}
    {port : Int} {run : Run Socket} (h : TlsCreation settings source host port p run)
    (network : p.network.Recoverable) :
    Sequential p.sockets run.events run.environment.sockets (handed? run.outcome) := by
  have contexts {outcome built q} (context : source.context p = ⟨outcome, built, q⟩) :
      Sequential p.sockets built q.sockets none ∧ q.network.Recoverable := by
    have steady := keeps_context_steady source p
    have within := keeps_context_within source p
    rw [context] at steady within
    refine ⟨?_, by rw [steady.network]; exact network⟩
    rw [steady.sockets]
    exact .of_idle fun e he => Event.idle_of_phase (by simpa using within e he)
  have attempted {outcome dialled q r} (network : q.network.Recoverable)
      (run : connect settings host port q = ⟨outcome, dialled, r⟩) :
      Sequential q.sockets dialled r.sockets (connected? outcome) := by
    have sequential := connect_sequential network settings host port
    rwa [run] at sequential
  have shaken {q raw dialled r} (c : Context) (name : Option Text)
      (network : q.network.Recoverable)
      (run : connect settings host port q = ⟨.ok raw, dialled, r⟩) :
      raw.number = r.sockets ∧ Sequential q.sockets (dialled ++ [.wrap c.name raw.number name])
        r.sockets (some r.sockets) := by
    have last : raw.number = r.sockets := (connect_eq_ok run).2.2
    have held : Sequential q.sockets dialled r.sockets (some raw.number) := attempted network run
    rw [last] at held
    exact ⟨last, held.use ⟨congrArg some last, rfl⟩⟩
  cases h with
  | noContext context => exact (contexts context).1
  | unconnected context connected =>
    obtain ⟨built, network⟩ := contexts context
    exact built.append (attempted network connected)
  | @wrapped c _ _ raw _ final context connected handshake =>
    obtain ⟨built, network⟩ := contexts context
    obtain ⟨last, held⟩ := shaken c (some (Host.unbracketed host)) network connected
    have handed : handed? (.ok (.tls raw)) = some final.sockets := congrArg some last
    rw [handed]
    exact built.append held
  | @unwrapped c _ _ raw _ final _ reports context connected handshake only =>
    obtain ⟨built, network⟩ := contexts context
    obtain ⟨last, held⟩ := shaken c (some (Host.unbracketed host)) network connected
    have closed := held.close (e := .close (.plain raw.number)) (decide_eq_true last)
    have reported : Sequential final.sockets reports final.sockets none :=
      .of_idle fun e he => Event.idle_of_phase (Or.inr (only e he))
    have whole := built.append (closed.append reported)
    rw [List.append_assoc, List.append_assoc] at whole
    exact whole

/-! ## Resolving -/

theorem createSocket_sequential {f : Factory} (builtIn : f.opener.BuiltIn)
    (network : p.network.Recoverable) (host : Text) (port : Int) :
    Sequential p.sockets (f.createSocket host port p).events
      (f.createSocket host port p).environment.sockets
      (handed? (f.createSocket host port p).outcome) := by
  obtain ⟨origin, settings | ⟨settings, source⟩ | ⟨name, fault, faults⟩⟩ := f
  · have sequential := connect_sequential network settings host port
    rw [createSocket_plain]
    rcases run : connect settings host port p with ⟨e | raw, events, q⟩
    · rwa [run] at sequential
    · rwa [run] at sequential
  · exact (tlsCreation_createTlsSocket settings source host port p).sequential network
  · cases builtIn

/-- Resolving closes every socket but the one that it returns. -/
theorem resolve_sequential {o : Overrides} {r : Reference} (network : p.network.Recoverable)
    (builtIn : ∀ e, Endpoint.ofReference encode r = .ok e → (o.opener e.secure).BuiltIn) :
    Sequential p.sockets (resolve encode o r p).events (resolve encode o r p).environment.sockets
      (handed? ((resolve encode o r p).outcome.map Target.socket)) := by
  cases named : Endpoint.ofReference encode r with
  | error e =>
    rw [resolve_of_error named]
    exact .nil
  | ok e =>
    obtain ⟨selection, started, q, -, selected, quiet, run⟩ := dial_apply o e p
    have reported : Sequential p.sockets (selection ++ started) q.sockets none := by
      rw [selected.sockets]
      exact .of_idle fun e he => Event.idle_of_phase (Or.inr (quiet e he))
    have network : q.network.Recoverable := by
      rw [selected.network]
      exact network
    have opener : (o.factory p e.secure).opener.BuiltIn := by
      rw [o.opener_factory]
      exact builtIn e named
    have called := createSocket_sequential opener network e.host e.port
    rw [resolve_of_ok named, run, Endpoint.andThen_handOver opener]
    have handed (outcome : Except Failure Socket) :
        handed? ((outcome.map e.target).map Target.socket) = handed? outcome := by
      cases outcome <;> rfl
    rw [← handed] at called
    exact reported.append called

/-- **No socket is lost.** On a network whose sockets fail only with faults of the operating system
and always close, and with a factory that is not the caller's own, every socket that a run creates
is closed exactly once, except that a run that succeeds does not close the one that it returns. At
most one of them is open at a time. -/
theorem resolve_closes (o : Overrides) (r : Reference) (network : p.network.Recoverable)
    (builtIn : ∀ e, Endpoint.ofReference encode r = .ok e → (o.opener e.secure).BuiltIn) :
    let run := resolve encode o r p
    createdBy run.events =
      List.range' (p.sockets + 1) (run.environment.sockets - p.sockets) ∧
    (∀ k, (openAfter run.events k).length ≤ 1) ∧
    match run.outcome with
    | .error _ => ∀ n ∈ createdBy run.events, run.events.countP (·.closes n) = 1
    | .ok t =>
      t.socket.raw.number ∈ createdBy run.events ∧
      ∀ n ∈ createdBy run.events,
        run.events.countP (·.closes n) = if n = t.socket.raw.number then 0 else 1 := by
  intro run
  have sequential : Sequential p.sockets run.events run.environment.sockets
      (handed? (run.outcome.map Target.socket)) := resolve_sequential network builtIn
  have created : createdBy run.events =
      List.range' (p.sockets + 1) (run.environment.sockets - p.sockets) :=
    sequential.createdBy_eq
  have member (n : Nat) : n ∈ createdBy run.events ↔
      p.sockets < n ∧ n ≤ run.environment.sockets := by
    have := sequential.le
    rw [created, List.mem_range'_1]
    omega
  refine ⟨created, sequential.openAfter_length, ?_⟩
  cases result : run.outcome with
  | error e =>
    intro n hn
    have range := (member n).mp hn
    have count := sequential.countP_closes n
    rw [result] at count
    rw [count, if_pos ⟨range.1, range.2, nofun⟩]
  | ok t =>
    have held : handed? (run.outcome.map Target.socket) = some t.socket.raw.number := by
      rw [result]
      rfl
    have last := sequential.held_eq _ held
    refine ⟨(member _).mpr ⟨last.2, last.1.le⟩, fun n hn => ?_⟩
    have range := (member n).mp hn
    rw [sequential.countP_closes n, held]
    by_cases same : n = t.socket.raw.number
    · rw [if_pos same, if_neg fun h => h.2.2 (congrArg some same.symm)]
    · rw [if_neg same, if_pos ⟨range.1, range.2, fun h => same (Option.some.inj h).symm⟩]

/-- A network with three addresses for every name: no socket can be created for the first, and the
second refuses connections. -/
def thirdConnects : Network := .of fun _ _ => .found [
  { family := 10
    address := [.text "::1".toText]
    faults := fun step => if step = .create then some ⟨.os, []⟩ else none },
  { family := 2
    address := [.text "192.0.2.1".toText]
    faults := fun step => if step = .connect then some ⟨.connectionRefused, []⟩ else none },
  { family := 2, address := [.text "192.0.2.2".toText], faults := fun _ => none }]

theorem thirdConnects_recoverable : thirdConnects.Recoverable := by
  intro host port entries found entry mem
  obtain rfl := Lookup.found.inj (Network.of_eq_found found)
  simp only [List.mem_cons, List.not_mem_nil, or_false] at mem
  rcases mem with rfl | rfl | rfl
  · refine ⟨rfl, fun step f fault => ?_⟩
    cases step <;> simp at fault
    subst fault
    decide
  · refine ⟨rfl, fun step f fault => ?_⟩
    cases step <;> simp at fault
    subst fault
    decide
  · exact ⟨rfl, nofun⟩

/-- A handshake that is interrupted, after two addresses have failed. -/
theorem resolve_closes_interrupted :
    let o : Overrides := { context := some (.given "c".toText (some ⟨.interrupt, []⟩)) }
    let r : Reference := .url { scheme := some "wss".toText, host := some "h".toText }
    let p : Environment :=
      { network := thirdConnects, platform := {}, logging := ⟨10, 30, [.listener]⟩ }
    p.network.Recoverable ∧
    (∀ e, Endpoint.ofReference .asciiOnly r = .ok e → (o.opener e.secure).BuiltIn) ∧
    (∃ e, (resolve .asciiOnly o r p).outcome = .error e) ∧
    createdBy (resolve .asciiOnly o r p).events = [1, 2] ∧
    (∀ n ∈ [1, 2], (resolve .asciiOnly o r p).events.countP (·.closes n) = 1) ∧
    ∀ k, (openAfter (resolve .asciiOnly o r p).events k).length ≤ 1 := by
  intro o r p
  have builtIn : ∀ e, Endpoint.ofReference .asciiOnly r = .ok e → (o.opener e.secure).BuiltIn := by
    intro e _
    cases e.secure <;> trivial
  obtain ⟨created, single, closes⟩ :=
    resolve_closes (p := p) o r thirdConnects_recoverable builtIn
  have sockets : (resolve .asciiOnly o r p).environment.sockets = 2 := by decide +kernel
  have failed : (resolve .asciiOnly o r p).outcome.toBool = false := by decide +kernel
  rw [sockets] at created
  cases result : (resolve .asciiOnly o r p).outcome with
  | ok t =>
    rw [result] at failed
    cases failed
  | error e =>
    simp only [result, created] at closes
    exact ⟨thirdConnects_recoverable, builtIn, ⟨e, rfl⟩, created, closes, single⟩

end Dialer
