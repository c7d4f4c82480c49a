import Dialer.Connect
import Dialer.Proofs.Action.Phases

/-!
# Attempts to connect

What one attempt at an address does, as a list of steps of which each may fail, and what a sequence
of attempts does in terms of them.

* `RawSocket.plan` lists the steps that set a socket up and connect it. `establish_eq_perform` says
  that they are done in turn up to the first that fails.
* `tryEntries_cons` is the run of the attempts at a list of addresses, by what becomes of the first.
-/

namespace Dialer

open Dialer.Action

/-! ## Plans -/

/-- Steps, each with its event and the fault that it ends in. -/
abbrev Plan : Type := List (Event × Option Fault)

namespace Plan

/-- The fault of the first step that fails. -/
def fault? (plan : Plan) : Option Fault := plan.findSome? Prod.snd

/-- The events of the steps up to the first that fails. -/
def events : Plan → List Event
  | [] => []
  | (e, none) :: steps => e :: events steps
  | (e, some _) :: _ => [e]

/-- Takes the steps in turn, up to the first that fails. -/
def perform : Plan → Action Unit
  | [] => pure ()
  | (e, fault) :: steps => do
    Action.perform e fault
    perform steps

/-- How a plan ends. -/
def outcome (plan : Plan) : Except Failure Unit :=
  match plan.fault? with
  | none => .ok ()
  | some f => .error (.fault f)

theorem perform_apply (plan : Plan) (p : Environment) :
    plan.perform p = ⟨plan.outcome, plan.events, p⟩ := by
  induction plan with
  | nil => rfl
  | cons step steps ih =>
    obtain ⟨e, fault⟩ := step
    rw [perform, bind_apply]
    cases fault with
    | none => simp [Action.perform, ih, events, outcome, fault?]
    | some f => rfl

theorem perform_append (first second : Plan) :
    (first ++ second).perform = first.perform >>= fun _ => second.perform := by
  induction first with
  | nil => exact (pure_bind () fun _ => second.perform).symm
  | cons step steps ih => simp only [List.cons_append, perform, ih, bind_assoc]

theorem perform_singleton (e : Event) (fault : Option Fault) :
    perform [(e, fault)] = Action.perform e fault := bind_pure (Action.perform e fault)

/-- Steps of one kind. -/
theorem forM_eq_perform {α : Type} (e : α → Event) (fault : α → Option Fault) (as : List α) :
    as.forM (fun a => Action.perform (e a) (fault a)) =
      perform (as.map fun a => (e a, fault a)) := by
  induction as with
  | nil => rfl
  | cons a as ih =>
    rw [List.map_cons, perform, ← ih]
    rfl

/-- The events are those of the first steps. -/
theorem events_prefix (plan : Plan) : plan.events <+: plan.map Prod.fst := by
  induction plan with
  | nil => exact List.prefix_refl []
  | cons step steps ih =>
    obtain ⟨e, _ | f⟩ := step
    · exact (List.prefix_cons_inj e).mpr ih
    · exact ⟨steps.map Prod.fst, rfl⟩

theorem fault?_eq_none_iff {plan : Plan} : plan.fault? = none ↔ ∀ step ∈ plan, step.2 = none :=
  List.findSome?_eq_none_iff

theorem events_of_fault?_eq_none {plan : Plan} (h : plan.fault? = none) :
    plan.events = plan.map Prod.fst := by
  induction plan with
  | nil => rfl
  | cons step steps ih =>
    obtain ⟨e, _ | f⟩ := step
    · rw [events, List.map_cons, ih (by simpa [fault?] using h)]
    · simp [fault?] at h

theorem fault?_append (first second : Plan) :
    (first ++ second).fault? = first.fault?.or second.fault? := List.findSome?_append

/-- Of a second plan there are events only if the first is taken in full. -/
theorem events_append (first second : Plan) :
    (first ++ second).events =
      match first.fault? with
      | none => first.events ++ second.events
      | some _ => first.events := by
  induction first with
  | nil => rfl
  | cons step steps ih =>
    obtain ⟨e, _ | f⟩ := step
    · have same : fault? ((e, none) :: steps) = fault? steps := rfl
      rw [List.cons_append, events, ih, same, events]
      cases fault? steps <;> rfl
    · rfl

end Plan

/-! ## Single attempts -/

/-- The steps that set a socket up and connect it. -/
def RawSocket.plan (s : RawSocket) (settings : ConnectSettings) : Plan :=
  (settings.options.zipIdx.map fun (option, place) =>
      (Event.setOption s.number option, s.faults (.setOption place))) ++
    (settings.timeout.toList.map fun timeout =>
      (Event.setTimeout s.number timeout, s.faults .setTimeout)) ++
    (if settings.source.isEmpty then []
      else [(Event.bind s.number settings.source, s.faults .bind)]) ++
    [(Event.connect s.number s.peer, s.faults .connect)]

theorem RawSocket.establish_eq_perform (s : RawSocket) (settings : ConnectSettings) :
    s.establish settings = (s.plan settings).perform := by
  have options : settings.options.zipIdx.forM (fun (option, place) => s.setOption option place) =
      Plan.perform (settings.options.zipIdx.map fun (option, place) =>
        (.setOption s.number option, s.faults (.setOption place))) :=
    Plan.forM_eq_perform (fun o : SocketOption × Nat => Event.setOption s.number o.1)
      (fun o => s.faults (.setOption o.2)) settings.options.zipIdx
  have timeout : settings.timeout.forM s.setTimeout =
      Plan.perform (settings.timeout.toList.map fun timeout =>
        (.setTimeout s.number timeout, s.faults .setTimeout)) := by
    cases settings.timeout with
    | none => rfl
    | some timeout => exact (Plan.perform_singleton _ _).symm
  rw [plan, Plan.perform_append, Plan.perform_append, Plan.perform_append, ← options, ← timeout,
    Plan.perform_singleton, establish]
  cases settings.source.isEmpty with
  | true => simp [Plan.perform, connect]
  | false => simp [Plan.perform_singleton, RawSocket.bind, connect]

/-- The environment with one more socket. -/
def Environment.withSocket (p : Environment) : Environment := { p with sockets := p.sockets + 1 }

/-- The socket that an attempt at an address sets up. -/
def Entry.socket (entry : Entry) (p : Environment) : RawSocket where
  number := p.sockets + 1
  faults := entry.faults
  peer := entry.address

/-- The events of an attempt at an address for which there is a socket. -/
def Entry.events (entry : Entry) (settings : ConnectSettings) (p : Environment) : List Event :=
  .openSocket entry.family (some (p.sockets + 1)) :: ((entry.socket p).plan settings).events

/-- The event is a step of setting the socket up and connecting it. -/
inductive Event.SetsUp (n : Nat) : Event → Prop
  | setOption (option : SocketOption) : SetsUp n (.setOption n option)
  | setTimeout (timeout : Timeout) : SetsUp n (.setTimeout n timeout)
  | bind (source : Address) : SetsUp n (.bind n source)
  | connect (peer : Address) : SetsUp n (.connect n peer)

theorem Event.SetsUp.phase {n : Nat} {e : Event} (h : e.SetsUp n) : e.phase = .socket := by
  cases h <;> rfl

theorem RawSocket.setsUp_of_mem_plan {s : RawSocket} {settings : ConnectSettings}
    {e : Event} {fault : Option Fault} (h : (e, fault) ∈ s.plan settings) :
    e.SetsUp s.number ∧ ∃ step, step ≠ .create ∧ step ≠ .close ∧ fault = s.faults step := by
  simp only [plan, List.mem_append, List.mem_map, List.mem_singleton, Prod.mk.injEq] at h
  rcases h with ((⟨⟨option, place⟩, -, rfl, rfl⟩ | ⟨timeout, -, rfl, rfl⟩) | h) | ⟨rfl, rfl⟩
  · exact ⟨.setOption option, .setOption place, nofun, nofun, rfl⟩
  · exact ⟨.setTimeout timeout, .setTimeout, by decide, by decide, rfl⟩
  · split at h
    · exact absurd h List.not_mem_nil
    · obtain ⟨rfl, rfl⟩ := Prod.mk.inj (List.mem_singleton.mp h)
      exact ⟨.bind settings.source, .bind, by decide, by decide, rfl⟩
  · exact ⟨.connect s.peer, .connect, by decide, by decide, rfl⟩

theorem RawSocket.setsUp_of_mem_events {s : RawSocket} {settings : ConnectSettings} {e : Event}
    (h : e ∈ (s.plan settings).events) : e.SetsUp s.number := by
  obtain ⟨⟨e, fault⟩, mem, rfl⟩ := List.mem_map.mp ((Plan.events_prefix _).subset h)
  exact (setsUp_of_mem_plan mem).1

/-- A fault while a socket is set up and connected is one of the socket's. -/
theorem RawSocket.fault_of_plan {s : RawSocket} {settings : ConnectSettings} {f : Fault}
    (h : (s.plan settings).fault? = some f) :
    ∃ step, step ≠ .create ∧ step ≠ .close ∧ s.faults step = some f := by
  obtain ⟨⟨e, fault⟩, mem, rfl⟩ := List.exists_of_findSome?_eq_some h
  obtain ⟨-, step, create, close, fault⟩ := setsUp_of_mem_plan mem
  exact ⟨step, create, close, fault.symm⟩

/-- A socket that is set up without a fault is connected last. -/
theorem RawSocket.events_of_connected {s : RawSocket} {settings : ConnectSettings}
    (h : (s.plan settings).fault? = none) :
    ∃ before, (s.plan settings).events = before ++ [.connect s.number s.peer] := by
  rw [Plan.events_of_fault?_eq_none h, plan, List.map_append]
  exact ⟨_, rfl⟩

theorem Entry.phase_of_mem_events {entry : Entry} {settings : ConnectSettings} {p : Environment}
    {e : Event} (h : e ∈ entry.events settings p) : e.phase = .socket := by
  rcases List.mem_cons.mp h with rfl | h
  · rfl
  · exact (RawSocket.setsUp_of_mem_events h).phase

theorem openSocket_apply (entry : Entry) (p : Environment) :
    openSocket entry p =
      match entry.faults .create with
      | some f => ⟨.error (.fault f), [.openSocket entry.family none], p⟩
      | none => ⟨.ok (entry.socket p), [.openSocket entry.family (some (p.sockets + 1))],
          p.withSocket⟩ := by
  rw [openSocket]
  cases entry.faults .create <;> rfl

theorem Socket.close_apply (s : Socket) (p : Environment) :
    s.close p =
      ⟨match s.closeFault with
        | some f => .error (.fault f)
        | none => .ok (), [.close s.name], p⟩ := rfl

/-- The socket fails with faults of the operating system only, and always closes. -/
structure Recoverable (faults : SocketFaults) : Prop where
  close : faults .close = none
  os : ∀ step f, faults step = some f → f.kind.isA .os = true

/-! ## Attempts in turn -/

/-- **The attempts at a list of addresses**, by what becomes of the first of them. -/
theorem tryEntries_cons (settings : ConnectSettings) (last : Failure) (entry : Entry)
    (entries : List Entry) (p : Environment) :
    tryEntries settings last (entry :: entries) p =
      match entry.faults .create with
      | some f =>
        if f.kind.isA .os then
          (tryEntries settings (.fault f) entries p).after [.openSocket entry.family none]
        else ⟨.error (.fault f), [.openSocket entry.family none], p⟩
      | none =>
        match ((entry.socket p).plan settings).fault? with
        | none => ⟨.ok (entry.socket p), entry.events settings p, p.withSocket⟩
        | some f =>
          if f.kind.isA .os then
            match entry.faults .close with
            | none =>
              (tryEntries settings (.fault f) entries p.withSocket).after
                (entry.events settings p ++ [.close (.plain (p.sockets + 1))])
            | some g =>
              ⟨.error (.fault g), entry.events settings p ++ [.close (.plain (p.sockets + 1))],
                p.withSocket⟩
          else ⟨.error (.fault f), entry.events settings p, p.withSocket⟩ := by
  rw [tryEntries, bind_apply, attempt_apply, openSocket_apply]
  cases create : entry.faults .create with
  | some f =>
    cases os : f.kind.isA .os with
    | true => simp [Failure.isOs, Failure.kind, os, Run.after]
    | false => simp [Failure.isOs, Failure.kind, os, fail]
  | none =>
    dsimp only
    rw [bind_apply, attempt_apply, RawSocket.establish_eq_perform, Plan.perform_apply,
      Plan.outcome]
    cases fault : ((entry.socket p).plan settings).fault? with
    | none => simp [pure_apply, Entry.events]
    | some f =>
      cases os : f.kind.isA .os with
      | false => simp [Failure.isOs, Failure.kind, os, fail, Entry.events]
      | true =>
        have closing : (Socket.plain (entry.socket p)).closeFault = entry.faults .close := rfl
        have name : (Socket.plain (entry.socket p)).name = .plain (p.sockets + 1) := rfl
        simp only [Failure.isOs, Failure.kind, os, if_true, bind_apply, Socket.close_apply, closing,
          name]
        cases entry.faults .close with
        | none => simp [Run.after, Entry.events]
        | some g => simp [Entry.events]

/-- How attempts at a list of addresses go, with the failure before them. -/
inductive Attempts (settings : ConnectSettings) :
    Failure → List Entry → Environment → Run RawSocket → Prop
  | exhausted {last p} : Attempts settings last [] p ⟨.error last, [], p⟩
  | uncreated {last entry entries p f run} (create : entry.faults .create = some f)
      (os : f.kind.isA .os = true) (rest : Attempts settings (.fault f) entries p run) :
      Attempts settings last (entry :: entries) p (run.after [.openSocket entry.family none])
  | uncreatedFatally {last entry entries p f} (create : entry.faults .create = some f)
      (os : f.kind.isA .os = false) :
      Attempts settings last (entry :: entries) p
        ⟨.error (.fault f), [.openSocket entry.family none], p⟩
  | connected {last entry entries p} (create : entry.faults .create = none)
      (fine : ((entry.socket p).plan settings).fault? = none) :
      Attempts settings last (entry :: entries) p
        ⟨.ok (entry.socket p), entry.events settings p, p.withSocket⟩
  | closed {last entry entries p f run} (create : entry.faults .create = none)
      (fault : ((entry.socket p).plan settings).fault? = some f) (os : f.kind.isA .os = true)
      (close : entry.faults .close = none)
      (rest : Attempts settings (.fault f) entries p.withSocket run) :
      Attempts settings last (entry :: entries) p
        (run.after (entry.events settings p ++ [.close (.plain (p.sockets + 1))]))
  | closedFatally {last entry entries p f g} (create : entry.faults .create = none)
      (fault : ((entry.socket p).plan settings).fault? = some f) (os : f.kind.isA .os = true)
      (close : entry.faults .close = some g) :
      Attempts settings last (entry :: entries) p
        ⟨.error (.fault g), entry.events settings p ++ [.close (.plain (p.sockets + 1))],
          p.withSocket⟩
  /-- The socket is left open. -/
  | failedFatally {last entry entries p f} (create : entry.faults .create = none)
      (fault : ((entry.socket p).plan settings).fault? = some f) (os : f.kind.isA .os = false) :
      Attempts settings last (entry :: entries) p
        ⟨.error (.fault f), entry.events settings p, p.withSocket⟩

/-- **Attempts go one of these ways.** What holds of all of them is shown by induction on this. -/
theorem attempts_tryEntries (settings : ConnectSettings) (last : Failure) (entries : List Entry)
    (p : Environment) : Attempts settings last entries p (tryEntries settings last entries p) := by
  induction entries generalizing last p with
  | nil => exact .exhausted
  | cons entry entries ih =>
    rw [tryEntries_cons]
    cases create : entry.faults .create with
    | some f =>
      cases os : f.kind.isA .os with
      | true => simpa only [os, if_true] using .uncreated create os (ih (.fault f) p)
      | false => simpa only [os, Bool.false_eq_true, if_false] using .uncreatedFatally create os
    | none =>
      cases fault : ((entry.socket p).plan settings).fault? with
      | none => exact .connected create fault
      | some f =>
        cases os : f.kind.isA .os with
        | false =>
          simpa only [os, Bool.false_eq_true, if_false] using .failedFatally create fault os
        | true =>
          cases close : entry.faults .close with
          | none =>
            simpa only [os, if_true] using
              .closed create fault os close (ih (.fault f) p.withSocket)
          | some g => simpa only [os, if_true] using .closedFatally create fault os close

namespace Attempts

variable {settings : ConnectSettings} {last : Failure} {entries : List Entry} {p : Environment}
  {run : Run RawSocket}

/-- Attempts deal with sockets only. -/
theorem phase (h : Attempts settings last entries p run) : ∀ e ∈ run.events, e.phase = .socket := by
  induction h with
  | exhausted => exact nofun
  | uncreated create os rest ih =>
    intro e he
    rcases List.mem_append.mp he with he | he
    · rw [List.mem_singleton.mp he]
      rfl
    · exact ih e he
  | uncreatedFatally create os =>
    intro e he
    rw [List.mem_singleton.mp he]
    rfl
  | connected create fine => exact fun e => Entry.phase_of_mem_events
  | closed create fault os close rest ih =>
    intro e he
    rcases List.mem_append.mp he with he | he
    · rcases List.mem_append.mp he with he | he
      · exact Entry.phase_of_mem_events he
      · rw [List.mem_singleton.mp he]
        rfl
    · exact ih e he
  | closedFatally create fault os close =>
    intro e he
    rcases List.mem_append.mp he with he | he
    · exact Entry.phase_of_mem_events he
    · rw [List.mem_singleton.mp he]
      rfl
  | failedFatally create fault os => exact fun e => Entry.phase_of_mem_events

/-- Attempts count sockets and change nothing else. -/
theorem environment (h : Attempts settings last entries p run) :
    ∃ n, run.environment = { p with sockets := p.sockets + n } := by
  induction h with
  | exhausted => exact ⟨0, rfl⟩
  | uncreated create os rest ih => exact ih
  | uncreatedFatally create os => exact ⟨0, rfl⟩
  | connected create fine => exact ⟨1, rfl⟩
  | closed create fault os close rest ih =>
    obtain ⟨n, hn⟩ := ih
    exact ⟨1 + n, by rw [← Nat.add_assoc]; exact hn⟩
  | closedFatally create fault os close => exact ⟨1, rfl⟩
  | failedFatally create fault os => exact ⟨1, rfl⟩

/-- The socket that attempts end with is the last one created, and connecting it is the last
step. -/
theorem ok (h : Attempts settings last entries p run) {raw : RawSocket}
    (connected : run.outcome = .ok raw) :
    (∃ before, run.events = before ++ [.connect raw.number raw.peer]) ∧
      p.sockets < raw.number ∧ raw.number = run.environment.sockets := by
  induction h with
  | exhausted | uncreatedFatally | closedFatally | failedFatally => cases connected
  | uncreated create os rest ih =>
    obtain ⟨⟨before, events⟩, number⟩ := ih connected
    refine ⟨?_, number⟩
    rw [Run.events_after, events, ← List.append_assoc]
    exact ⟨_, rfl⟩
  | connected create fine =>
    obtain rfl := Except.ok.inj connected
    obtain ⟨before, events⟩ := RawSocket.events_of_connected fine
    refine ⟨?_, Nat.lt_succ_self _, rfl⟩
    dsimp only
    rw [Entry.events, events, ← List.cons_append]
    exact ⟨_, rfl⟩
  | closed create fault os close rest ih =>
    obtain ⟨⟨before, events⟩, later, number⟩ := ih connected
    refine ⟨?_, Nat.lt_of_succ_lt later, number⟩
    rw [Run.events_after, events, ← List.append_assoc]
    exact ⟨_, rfl⟩

end Attempts

/-- Connecting is a lookup and the attempts at what it finds. -/
theorem connect_apply (settings : ConnectSettings) (host : Text) (port : Int) (p : Environment) :
    connect settings host port p =
      match p.network (Host.unbracketed host) port with
      | .found entries =>
        (tryEntries settings .noAddress entries p).after [.lookup (Host.unbracketed host) port]
      | .failed f => ⟨.error (.fault f), [.lookup (Host.unbracketed host) port], p⟩ := by
  rw [connect, bind_apply, lookup]
  simp only [bind_apply, emit, environment]
  cases p.network (Host.unbracketed host) port with
  | found entries => simp [pure_apply, Run.after]
  | failed f => simp [fail]

/-- Connecting counts sockets and changes nothing else. -/
theorem connect_environment (settings : ConnectSettings) (host : Text) (port : Int)
    (p : Environment) :
    ∃ n, (connect settings host port p).environment = { p with sockets := p.sockets + n } := by
  rw [connect_apply]
  split
  next entries _ => exact (attempts_tryEntries settings .noAddress entries p).environment
  next => exact ⟨0, rfl⟩

/-- Nothing is connected for a port that cannot be written: no lookup takes it. -/
theorem canWritePort_of_connect {settings : ConnectSettings} {host : Text} {port : Int}
    {p : Environment} {raw : RawSocket}
    (h : (connect settings host port p).outcome = .ok raw) : canWritePort (some port) = true := by
  by_contra unwritable
  obtain ⟨f, failed⟩ :=
    p.network.refuses (Host.unbracketed host) port (Bool.eq_false_iff.mpr unwritable)
  rw [connect_apply, failed] at h
  cases h

/-- **A connection that succeeds** consists of one lookup and of attempts, the last of which
connects the socket. -/
theorem connect_eq_ok {settings : ConnectSettings} {host : Text} {port : Int} {p q : Environment}
    {raw : RawSocket} {events : List Event}
    (h : connect settings host port p = ⟨.ok raw, events, q⟩) :
    (∃ between, events = .lookup (Host.unbracketed host) port ::
        (between ++ [.connect raw.number raw.peer]) ∧ ∀ e ∈ between, e.phase = .socket) ∧
      p.sockets < raw.number ∧ raw.number = q.sockets := by
  rw [connect_apply] at h
  cases found : p.network (Host.unbracketed host) port with
  | failed f => simp [found] at h
  | found entries =>
    simp only [found] at h
    have attempts := attempts_tryEntries settings .noAddress entries p
    obtain ⟨outcome, rfl, rfl⟩ := Run.mk.inj h
    obtain ⟨⟨between, connected⟩, number⟩ := attempts.ok outcome
    refine ⟨⟨between, by rw [connected]; rfl, fun e he => ?_⟩, number⟩
    exact attempts.phase e (by rw [connected]; exact List.mem_append_left _ he)

end Dialer
