import Dialer.Proofs.Connect.FirstSuccess
import Dialer.Proofs.Connect.Lifetimes

/-!
# Sockets that are lost

When a connection neither hands a socket on nor closes it.

* `Run.Loses` says that a run loses a socket. `Interrupted` says that setting up the socket of some
  address fails, but not with a fault of the operating system, after all addresses before it have
  been passed over.
* `Attempts.loses_iff` and `connect_loses_iff` say that the last socket is lost in that case, and
  that no socket is lost otherwise.
-/

namespace Dialer

open Dialer.Action

/-! ## Losses -/

/-- The run creates the socket and neither hands it on nor closes it. -/
structure Run.Loses (p : Environment) (run : Run RawSocket) (n : Nat) : Prop where
  created : p.sockets < n ∧ n ≤ run.environment.sockets
  kept : ∀ raw, run.outcome = .ok raw → raw.number ≠ n
  unclosed : ∀ e ∈ run.events, e.closes n = false

variable {settings : ConnectSettings} {p : Environment} {run : Run RawSocket} {n : Nat}
  {before : List Event}

/-- Events that close nothing make no difference. -/
theorem Run.loses_after (quiet : ∀ e ∈ before, e.closes n = false) :
    (run.after before).Loses p n ↔ run.Loses p n := by
  constructor
  · rintro ⟨created, kept, unclosed⟩
    exact ⟨created, kept, fun e he => unclosed e (List.mem_append_right before he)⟩
  · rintro ⟨created, kept, unclosed⟩
    refine ⟨created, kept, fun e he => ?_⟩
    rcases List.mem_append.mp he with he | he
    · exact quiet e he
    · exact unclosed e he

/-- The first socket is not lost if it is closed. -/
theorem Run.loses_after_close (quiet : ∀ e ∈ before, e.closes n = false) :
    (run.after (before ++ [.close (.plain (p.sockets + 1))])).Loses p n ↔
      run.Loses p.withSocket n := by
  have close : (Event.close (.plain (p.sockets + 1))).closes n = decide (p.sockets + 1 = n) := rfl
  constructor
  · rintro ⟨⟨first, last⟩, kept, unclosed⟩
    have open_after := unclosed (.close (.plain (p.sockets + 1))) (by simp [Run.events_after])
    rw [close, decide_eq_false_iff_not] at open_after
    have later : p.sockets + 1 < n := by omega
    exact ⟨⟨later, last⟩, kept, fun e he => unclosed e (List.mem_append_right _ he)⟩
  · rintro ⟨⟨later, last⟩, kept, unclosed⟩
    have later : p.sockets + 1 < n := later
    refine ⟨⟨by omega, last⟩, kept, fun e he => ?_⟩
    rcases List.mem_append.mp he with he | he
    · rcases List.mem_append.mp he with he | he
      · exact quiet e he
      · rw [List.mem_singleton.mp he, close, decide_eq_false_iff_not]
        omega
    · exact unclosed e he

theorem Event.SetsUp.closes {m : Nat} {e : Event} (h : e.SetsUp m) (n : Nat) :
    e.closes n = false := by
  cases h <;> rfl

theorem Entry.closes_of_mem_events {entry : Entry} {e : Event} (h : e ∈ entry.events settings p)
    (n : Nat) : e.closes n = false := by
  rcases List.mem_cons.mp h with rfl | h
  · rfl
  · exact (RawSocket.setsUp_of_mem_events h).closes n

/-! ## Interruptions -/

/-- Setting up the socket of an address fails, but not with a fault of the operating system. At all
addresses before it the operating system is at fault, and their sockets are closed. -/
inductive Interrupted (settings : ConnectSettings) : List Entry → Prop
  | here {entry entries f} (opens : entry.opens = true) (fault : entry.fault? settings = some f)
      (foreign : f.kind.isA .os = false) : Interrupted settings (entry :: entries)
  | later {entry entries f} (fault : entry.fault? settings = some f) (os : f.kind.isA .os = true)
      (close : entry.opens = true → entry.faults .close = none)
      (rest : Interrupted settings entries) : Interrupted settings (entry :: entries)

theorem not_interrupted_of_connected {entry : Entry} {entries : List Entry}
    (fault : entry.fault? settings = none) : ¬ Interrupted settings (entry :: entries) := by
  intro h
  cases h with
  | here _ fault' | later fault' => cases fault.symm.trans fault'

theorem interrupted_cons_iff {entry : Entry} {entries : List Entry} {f : Fault}
    (fault : entry.fault? settings = some f) : Interrupted settings (entry :: entries) ↔
      (entry.opens = true ∧ f.kind.isA .os = false) ∨
      (f.kind.isA .os = true ∧ (entry.opens = true → entry.faults .close = none) ∧
        Interrupted settings entries) := by
  constructor
  · intro h
    cases h with
    | here opens fault' foreign =>
      obtain rfl := Option.some.inj (fault.symm.trans fault')
      exact Or.inl ⟨opens, foreign⟩
    | later fault' os close rest =>
      obtain rfl := Option.some.inj (fault.symm.trans fault')
      exact Or.inr ⟨os, close, rest⟩
  · rintro (⟨opens, foreign⟩ | ⟨os, close, rest⟩)
    · exact .here opens fault foreign
    · exact .later fault os close rest

/-! ## Attempts -/

/-- **Attempts lose the last socket when they are interrupted**, and none otherwise. -/
theorem Attempts.loses_iff {last : Failure} {entries : List Entry}
    (h : Attempts settings last entries p run) (n : Nat) :
    run.Loses p n ↔ n = run.environment.sockets ∧ Interrupted settings entries := by
  induction h with
  | exhausted =>
    constructor
    · rintro ⟨⟨first, last⟩, -, -⟩
      exact absurd last (Nat.not_le.mpr first)
    · rintro ⟨-, interrupted⟩
      cases interrupted
  | uncreated create os rest ih =>
    obtain ⟨fault, opens⟩ := Entry.fault?_of_uncreated settings create
    rw [Run.loses_after (by simp [Event.closes]), ih, interrupted_cons_iff fault]
    simp [opens, os, Run.after]
  | @uncreatedFatally last entry entries p f create os =>
    obtain ⟨fault, opens⟩ := Entry.fault?_of_uncreated settings create
    rw [interrupted_cons_iff fault]
    constructor
    · rintro ⟨⟨first, last⟩, -, -⟩
      exact absurd last (Nat.not_le.mpr first)
    · simp [opens, os]
  | @connected last entry entries p create fine =>
    have fault : entry.fault? settings = none :=
      (Entry.fault?_of_created settings create (p.sockets + 1)).1.trans fine
    constructor
    · rintro ⟨⟨first, last⟩, kept, -⟩
      -- the only socket is the one that is handed on
      exact absurd (Nat.le_antisymm first last) (kept (entry.socket p) rfl)
    · rintro ⟨-, interrupted⟩
      exact absurd interrupted (not_interrupted_of_connected fault)
  | @closed last entry entries p f run create fault os close rest ih =>
    obtain ⟨same, opens⟩ := Entry.fault?_of_created settings create (p.sockets + 1)
    rw [Run.loses_after_close fun e he => Entry.closes_of_mem_events he n, ih,
      interrupted_cons_iff (same.trans fault)]
    simp [os, close, Run.after]
  | @closedFatally last entry entries p f g create fault os close =>
    obtain ⟨same, opens⟩ := Entry.fault?_of_created settings create (p.sockets + 1)
    rw [interrupted_cons_iff (same.trans fault)]
    constructor
    · rintro ⟨⟨first, last⟩, -, unclosed⟩
      obtain rfl : p.sockets + 1 = n := Nat.le_antisymm first last
      have open_after := unclosed (.close (.plain (p.sockets + 1))) (by simp)
      exact absurd rfl (of_decide_eq_false open_after)
    · simp [opens, os, close]
  | @failedFatally last entry entries p f create fault os =>
    obtain ⟨same, opens⟩ := Entry.fault?_of_created settings create (p.sockets + 1)
    rw [interrupted_cons_iff (same.trans fault)]
    constructor
    · rintro ⟨⟨first, last⟩, -, -⟩
      exact ⟨Nat.le_antisymm last first, Or.inl ⟨opens, os⟩⟩
    · rintro ⟨rfl, -⟩
      refine ⟨⟨Nat.lt_succ_self _, Nat.le_refl _⟩, fun raw ok => ?_,
        fun e he => Entry.closes_of_mem_events he _⟩
      cases ok

/-! ## Connections -/

/-- **A connection loses a socket exactly when it is interrupted**, and then it loses the last one
that it has created. -/
theorem connect_loses_iff (settings : ConnectSettings) (host : Text) (port : Int) (p : Environment)
    (n : Nat) :
    (connect settings host port p).Loses p n ↔
      n = (connect settings host port p).environment.sockets ∧
      ∃ entries, p.network (Host.unbracketed host) port = .found entries ∧
        Interrupted settings entries := by
  rw [connect_apply]
  cases found : p.network (Host.unbracketed host) port with
  | failed f =>
    constructor
    · rintro ⟨⟨first, last⟩, -, -⟩
      exact absurd last (Nat.not_le.mpr first)
    · rintro ⟨-, entries, found', -⟩
      cases found'
  | found entries =>
    dsimp only
    rw [Run.loses_after (by simp [Event.closes]),
      (attempts_tryEntries settings .noAddress entries p).loses_iff n]
    simp [Run.after]

/-- A timeout of minus one second is refused, and the socket stays open. -/
theorem connect_loses_negativeTimeout :
    let timeout : Timeout := .limit (.whole (-1))
    let refused : Fault := ⟨.value, [.text "Timeout value out of range".toText]⟩
    let entry : Entry :=
      { family := 2
        address := [.text "192.0.2.1".toText, .number 80]
        faults := failing .setTimeout refused }
    let p : Environment :=
      { network := .of fun _ _ => .found [entry], platform := {}, logging := ⟨10, 30, []⟩ }
    let run := connect { timeout := some timeout } "example.com".toText 80 p
    run.Loses p 1 ∧ run.outcome = .error (.fault refused) ∧
      run.events =
        [.lookup "example.com".toText 80, .openSocket 2 (some 1), .setTimeout 1 timeout] := by
  intro timeout refused entry p run
  have found : p.network (Host.unbracketed "example.com".toText) 80 = .found [entry] :=
    Network.of_apply (canWritePort_of_le (by decide)) _
  have dialled : run = _ := connect_apply { timeout := some timeout } "example.com".toText 80 p
  rw [found] at dialled
  have events : run.events =
      [.lookup "example.com".toText 80, .openSocket 2 (some 1), .setTimeout 1 timeout] :=
    (congrArg Run.events dialled).trans (by decide)
  have outcome : run.outcome = .error (.fault refused) := (congrArg Run.outcome dialled).trans rfl
  have created : run.environment.sockets = 1 :=
    (congrArg (·.environment.sockets) dialled).trans rfl
  refine ⟨⟨⟨Nat.zero_lt_one, created.ge⟩, ?_, ?_⟩, outcome, events⟩
  · intro raw ok
    rw [outcome] at ok
    cases ok
  · rw [events]
    decide

end Dialer
