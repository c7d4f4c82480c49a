import Dialer.Proofs.Connect.Attempts
import Dialer.Proofs.Uri.Ports

/-!
# The first success and the last failure

Connecting on sockets that fail with faults of the operating system only, and always close. The
addresses are tried up to the first that can be connected, and if there is none, the failure is that
of the last.

* `Entry.steps` lists all steps of an attempt at an address, and `Entry.trace` the events of it: the
  steps up to the first that fails, and the closing of the socket after that.
* `tryEntries_cons_of_recoverable` is what one attempt does, and `tryEntries_of_recoverable` what a
  list of them comes to. `connect_firstSuccess` is the result.
-/

namespace Dialer

open Dialer.Action

variable {settings : ConnectSettings} {p : Environment}

/-! ## Single attempts -/

namespace Entry

/-- The socket for the address, with its number. -/
def numbered (entry : Entry) (n : Nat) : RawSocket := ⟨n, entry.faults, entry.address⟩

/-- Whether a socket can be created for the address. -/
def opens (entry : Entry) : Bool := (entry.faults .create).isNone

/-- The steps of an attempt at the address: a socket is created, set up and connected. -/
def steps (entry : Entry) (settings : ConnectSettings) (n : Nat) : Plan :=
  (.openSocket entry.family (if entry.opens then some n else none), entry.faults .create) ::
    (entry.numbered n).plan settings

/-- The fault of the first step that fails, if any. -/
def fault? (settings : ConnectSettings) (entry : Entry) : Option Fault :=
  (entry.steps settings 0).fault?

/-- Whether no step fails. -/
def connects (settings : ConnectSettings) (entry : Entry) : Bool := (entry.fault? settings).isNone

/-- The events of an attempt at the address, with the number of the socket: the steps up to the
first that fails, after which the socket is closed if it has been created. -/
def trace (entry : Entry) (settings : ConnectSettings) (n : Nat) : List Event :=
  (entry.steps settings n).events ++
    if entry.opens && !entry.connects settings then [.close (.plain n)] else []

variable {entry : Entry}

/-- How the set-up of a socket goes does not depend on its number. -/
theorem fault?_plan (entry : Entry) (settings : ConnectSettings) (n : Nat) :
    ((entry.numbered n).plan settings).fault? = ((entry.numbered 0).plan settings).fault? := by
  have faults (plan : Plan) : plan.fault? = (plan.map Prod.snd).findSome? id := by
    rw [Plan.fault?, List.findSome?_map]
    rfl
  rw [faults, faults]
  congr 1
  simp only [RawSocket.plan, numbered, List.map_append, List.map_map, Function.comp_def,
    List.map_cons, List.map_nil]
  cases settings.source.isEmpty <;> rfl

theorem fault?_of_uncreated (settings : ConnectSettings) {f : Fault}
    (h : entry.faults .create = some f) :
    entry.fault? settings = some f ∧ entry.opens = false := by
  simp [fault?, steps, Plan.fault?, opens, h]

theorem fault?_of_created (settings : ConnectSettings) (h : entry.faults .create = none) (n : Nat) :
    entry.fault? settings = ((entry.numbered n).plan settings).fault? ∧ entry.opens = true := by
  rw [fault?_plan]
  simp [fault?, steps, Plan.fault?, opens, h]

theorem trace_of_uncreated {f : Fault} (h : entry.faults .create = some f) (n : Nat) :
    entry.trace settings n = [.openSocket entry.family none] := by
  simp [trace, steps, Plan.events, opens, h]

theorem trace_of_created (h : entry.faults .create = none) (n : Nat) :
    entry.trace settings n = .openSocket entry.family (some n) ::
      (((entry.numbered n).plan settings).events ++
        if entry.connects settings then [] else [.close (.plain n)]) := by
  rw [trace, steps, h, Plan.events, (fault?_of_created settings h n).2]
  cases entry.connects settings <;> rfl

/-- The address that is connected has a socket. -/
theorem opens_of_fault? (h : entry.fault? settings = none) : entry.opens = true := by
  cases create : entry.faults .create with
  | none => exact (fault?_of_created settings create 0).2
  | some f => cases h.symm.trans (fault?_of_uncreated settings create).1

end Entry

/-- The environment with more sockets. -/
def Environment.withSockets (p : Environment) (n : Nat) : Environment :=
  { p with sockets := p.sockets + n }

/-- **One attempt** ends the connection, or hands its fault over to those after it. -/
theorem tryEntries_cons_of_recoverable {entry : Entry} (h : Recoverable entry.faults)
    (last : Failure) (entries : List Entry) :
    tryEntries settings last (entry :: entries) p =
      match entry.fault? settings with
      | none => ⟨.ok (entry.numbered (p.sockets + 1)), entry.trace settings (p.sockets + 1),
          p.withSockets 1⟩
      | some f =>
        (tryEntries settings (.fault f) entries (p.withSockets entry.opens.toNat)).after
          (entry.trace settings (p.sockets + 1)) := by
  rw [tryEntries_cons]
  cases create : entry.faults .create with
  | some f =>
    obtain ⟨fault, opens⟩ := Entry.fault?_of_uncreated settings create
    simp only [h.os _ _ create, if_true, fault, opens, Entry.trace_of_uncreated create]
    rfl
  | none =>
    obtain ⟨fault, opens⟩ := Entry.fault?_of_created settings create (p.sockets + 1)
    have socket : entry.socket p = entry.numbered (p.sockets + 1) := rfl
    rw [fault, opens, Entry.trace_of_created create, Entry.connects, fault, Entry.events, socket]
    cases setUp : ((entry.numbered (p.sockets + 1)).plan settings).fault? with
    | none => simp [Environment.withSocket, Environment.withSockets]
    | some f =>
      obtain ⟨step, -, -, fault⟩ := RawSocket.fault_of_plan setUp
      simp only [h.os _ _ fault, if_true, h.close]
      rfl

/-! ## Attempts in turn -/

/-- The addresses that are tried: up to the first that can be connected. -/
def attempted (settings : ConnectSettings) (entries : List Entry) : List Entry :=
  entries.takeWhile (!·.connects settings) ++ (entries.find? (·.connects settings)).toList

/-- The events of attempts in turn, after so many sockets have been created. -/
def traces (settings : ConnectSettings) : Nat → List Entry → List Event
  | _, [] => []
  | n, entry :: entries =>
    entry.trace settings (n + 1) ++ traces settings (n + entry.opens.toNat) entries

theorem attempted_cons (settings : ConnectSettings) (entry : Entry) (entries : List Entry) :
    attempted settings (entry :: entries) =
      entry :: if entry.connects settings then [] else attempted settings entries := by
  cases h : entry.connects settings <;> simp [attempted, h]

/-- The failure of the last address, or the one before if there is no address. -/
def lastFailure (settings : ConnectSettings) (last : Failure) (entries : List Entry) : Failure :=
  (entries.getLast?.bind (·.fault? settings)).elim last .fault

theorem lastFailure_cons {last : Failure} {entry : Entry} {entries : List Entry} {f : Fault}
    (fault : entry.fault? settings = some f)
    (failed : ∀ e ∈ entries, e.connects settings = false) :
    lastFailure settings last (entry :: entries) = lastFailure settings (.fault f) entries := by
  rcases List.eq_nil_or_concat entries with rfl | ⟨before, final, rfl⟩
  · simp [lastFailure, fault]
  · obtain ⟨g, hg⟩ : ∃ g, final.fault? settings = some g := by
      simpa [Entry.connects, Option.isSome_iff_exists] using failed final (by simp)
    rw [lastFailure, lastFailure, List.concat_eq_append, ← List.cons_append]
    simp only [List.getLast?_concat, Option.bind_some, hg, Option.elim_some]

/-- **What attempts in turn come to.** -/
theorem tryEntries_of_recoverable (settings : ConnectSettings) {entries : List Entry}
    (recoverable : ∀ entry ∈ entries, Recoverable entry.faults) (last : Failure)
    (p : Environment) :
    let tried := attempted settings entries
    let sockets := p.sockets + tried.countP Entry.opens
    tryEntries settings last entries p =
      ⟨match entries.find? (·.connects settings) with
        | some entry => .ok (entry.numbered sockets)
        | none => .error (lastFailure settings last entries),
        traces settings p.sockets tried, { p with sockets }⟩ := by
  induction entries generalizing last p with
  | nil => rfl
  | cons entry entries ih =>
    obtain ⟨first, rest⟩ := List.forall_mem_cons.mp recoverable
    rw [tryEntries_cons_of_recoverable first, attempted_cons]
    cases fault : entry.fault? settings with
    | none =>
      have connects : entry.connects settings = true := by simp [Entry.connects, fault]
      simp [connects, Entry.opens_of_fault? fault, traces, Environment.withSockets]
    | some f =>
      have connects : entry.connects settings = false := by simp [Entry.connects, fault]
      have count (n : Nat) :
          n + entry.opens.toNat + (attempted settings entries).countP Entry.opens =
          n + (entry :: attempted settings entries).countP Entry.opens := by
        rw [List.countP_cons, Nat.add_assoc, Nat.add_comm (List.countP _ _)]
        cases entry.opens <;> rfl
      simp only [ih rest, connects, Bool.false_eq_true, if_false, List.find?_cons_of_neg,
        not_false_eq_true, traces, Run.after, Environment.withSockets, count]
      cases found : entries.find? (·.connects settings) with
      | some entry => rfl
      | none =>
        have failed : ∀ e ∈ entries, e.connects settings = false := by
          simpa using List.find?_eq_none.mp found
        rw [lastFailure_cons fault failed]

/-! ## Connections -/

/-- The faults of a socket that fails in one step. -/
def failing (step : SocketStep) (f : Fault) : SocketFaults :=
  fun s => if s = step then some f else none

end Dialer
