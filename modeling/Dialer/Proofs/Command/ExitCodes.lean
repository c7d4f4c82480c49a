import Dialer.Command
import Dialer.Proofs.Resolver.Availability
import Dialer.Proofs.Resolver.SingleDial
import Dialer.Proofs.Uri.NormalForm
import Dialer.Proofs.Uri.Surrogates

/-!
# Exit codes

The command ends with an exit code, whatever fails around it, as long as that fails with faults of
the operating system and sockets close, unless its argument cannot be encoded.

* `Exit` lists the ways in which the command may end. `Exit.Fits` says for which references, on
  which networks and platforms it ends so, and `Exit.Leaves` what has become of the sockets by then.
* `Command.run_of_error` and `Command.run_of_ok` are the run of the command in terms of that of
  resolving its reference.
* `Command.run_exits_iff` says that the exit code tells which ending it is, and that there is one
  but for arguments with surrogates, which a command line has where its bytes are no UTF-8.
-/

namespace Dialer

open Dialer.Action

/-! ## Kinds of failure -/

/-- No failure is both that of a reference and that of the operating system. -/
theorem Kind.isA_location_of_isA_os {kind : Kind} (h : kind.isA .os = true) :
    kind.isA .location = false := by
  cases kind <;> first | rfl | cases h

variable {encode : HostEncoding} {s : Text}

/-- The refusal of a text puts the reference at fault, unless the text cannot be encoded. -/
theorem Refused.isLocation {e : Failure} (h : Refused encode (.text s) e)
    (encodable : ¬ ∃ e, Url.Unencodable encode s e) : e.isLocation = true := by
  have own (reason : ReferenceError) : (Failure.reference reason).isLocation = true := by
    cases reason <;> rfl
  cases h with
  | reference url =>
    have parsed : (Url.parseWith encode s).mapError _ = .error e := url
    cases parse : Url.parseWith encode s with
    | ok u =>
      rw [parse] at parsed
      cases parsed
    | error reason =>
      rw [parse] at parsed
      obtain rfl := Except.error.inj parsed
      cases reason with
      | unencodable e =>
        exact absurd ⟨e, Url.parseWith_eq_unencodable_iff.mp parse⟩ encodable
      | _ => exact own _
  | scheme => exact own _
  | host url =>
    have writable := Url.canWritePort_of_parseWith (mapError_eq_ok.mp url)
    rw [Url.hostFailure_of_writable writable]
    exact own _

theorem Refused.of_unencodable {e : Uri.EncodingError} (h : Url.Unencodable encode s e) :
    Refused encode (.text s) (.unencodable e) := by
  refine .reference ?_
  show (Url.parseWith encode s).mapError _ = _
  rw [Url.parseWith_eq_unencodable_iff.mpr h]
  rfl

/-! ## Reports -/

/-- The action does nothing but report. -/
def OnlyReports (x : Action Unit) : Prop :=
  ∀ p, ∃ reports, x p = ⟨.ok (), reports, p⟩ ∧ ∀ e ∈ reports, e.phase = .report

variable {x y : Action Unit} {f : Unit → Action Unit}

theorem OnlyReports.pure : OnlyReports (pure ()) := fun _ => ⟨[], rfl, nofun⟩

theorem OnlyReports.bind (hx : OnlyReports x) (hf : OnlyReports (f ())) :
    OnlyReports (x >>= f) := by
  intro p
  obtain ⟨before, first, only⟩ := hx p
  obtain ⟨after, second, only'⟩ := hf p
  refine ⟨before ++ after, ?_, fun e he => (List.mem_append.mp he).elim (only e) (only' e)⟩
  rw [bind_of_ok first, second]

theorem OnlyReports.ite {c : Prop} [Decidable c] (hx : OnlyReports x) (hy : OnlyReports y) :
    OnlyReports (if c then x else y) := by
  split
  · exact hx
  · exact hy

/-- A report that is made under a condition, before others. -/
theorem OnlyReports.ite_bind {c : Prop} [Decidable c] (hx : OnlyReports x)
    (hf : OnlyReports (f ())) : OnlyReports (if c then x >>= f else f ()) := .ite (hx.bind hf) hf

namespace Command

variable {arguments : List Text} {p q : Environment} {t : Target} {e : Failure}
    {events : List Event}

theorem onlyReports_say (level : Level) (line : Text) : OnlyReports (say level line) :=
  report_apply level .command line

theorem onlyReports_describe (t : Target) : OnlyReports (describe t) := by
  refine .bind (onlyReports_say _ _) (.bind (onlyReports_say _ _) ?_)
  refine .ite_bind (onlyReports_say _ _) ?_
  exact .bind (onlyReports_say _ _) (.bind (onlyReports_say _ _) (.ite (onlyReports_say _ _) .pure))

/-! ## The run of the command -/

/-- The reference that the command resolves. -/
def reference (arguments : List Text) : Text := arguments.head?.getD defaultReference

/-- A reference that cannot be resolved is reported. -/
theorem run_of_error
    (resolved : resolve encode overrides (.text (reference arguments)) p = ⟨.error e, events, q⟩)
    (known : e.isLocation = true ∨ e.isOs = true) : ∃ reports,
      run encode arguments p = ⟨.ok (if e.isLocation then 2 else 1), events ++ reports, q⟩ ∧
        ∀ e ∈ reports, e.phase = .report := by
  have attempted : (resolve encode overrides (.text (reference arguments))).attempt p =
      ⟨.ok (.error e), events, q⟩ := by
    rw [attempt_apply, resolved]
  have said (line : Text) : ∃ reports, say .error line q = ⟨.ok (), reports, q⟩ ∧
      ∀ e ∈ reports, e.phase = .report := onlyReports_say .error line q
  unfold run
  rw [← reference, bind_of_ok attempted]
  cases location : e.isLocation with
  | true =>
    obtain ⟨reports, run, only⟩ := said ("Invalid endpoint: " ++ e.message)
    refine ⟨reports, ?_, only⟩
    simp only [location, if_true, bind_of_ok run, pure_apply, List.append_nil]
  | false =>
    have os : e.isOs = true := known.resolve_left (by simp [location])
    obtain ⟨reports, run, only⟩ := said ("Could not connect: " ++ e.message)
    refine ⟨reports, ?_, only⟩
    simp only [location, os, Bool.false_eq_true, if_false, if_true, bind_of_ok run, pure_apply,
      List.append_nil]

/-- What the command has no exit code for ends it. -/
theorem run_of_unknown
    (resolved : resolve encode overrides (.text (reference arguments)) p = ⟨.error e, events, q⟩)
    (location : e.isLocation = false) (os : e.isOs = false) :
    run encode arguments p = ⟨.error e, events, q⟩ := by
  have attempted : (resolve encode overrides (.text (reference arguments))).attempt p =
      ⟨.ok (.error e), events, q⟩ := by
    rw [attempt_apply, resolved]
  unfold run
  rw [← reference, bind_of_ok attempted]
  have failed : fail (α := Int) e q = ⟨.error e, [], q⟩ := rfl
  simp only [location, os, Bool.false_eq_true, if_false, failed, List.append_nil]

/-- A target is described and then closed. -/
theorem run_of_ok
    (resolved : resolve encode overrides (.text (reference arguments)) p = ⟨.ok t, events, q⟩)
    (closes : t.socket.closeFault = none) : ∃ reports,
      run encode arguments p = ⟨.ok 0, events ++ (reports ++ [.close t.socket.name]), q⟩ ∧
        ∀ e ∈ reports, e.phase = .report := by
  have attempted : (resolve encode overrides (.text (reference arguments))).attempt p =
      ⟨.ok (.ok t), events, q⟩ := by
    rw [attempt_apply, resolved]
  obtain ⟨reports, described, only⟩ := onlyReports_describe t q
  have closed : t.close q = ⟨.ok (), [.close t.socket.name], q⟩ := by
    rw [Target.close, Socket.close_apply, closes]
  have within : t.within (describe t) q =
      ⟨.ok (), reports ++ [.close t.socket.name], q⟩ := by
    have attempt : (describe t).attempt q = ⟨.ok (.ok ()), reports, q⟩ := by
      rw [attempt_apply, described]
    rw [Target.within, ensuring, bind_of_ok attempt, bind_of_ok closed]
    rfl
  refine ⟨reports, ?_, only⟩
  unfold run
  rw [← reference, bind_of_ok attempted]
  simp only [bind_of_ok within, pure_apply, List.append_nil]

/-! ## Endings -/

/-- The ways in which the command may end with an exit code. -/
inductive Exit
  | connected
  | unconnected
  | refused

namespace Exit

/-- The exit code. -/
def code : Exit → Int
  | connected => 0
  | unconnected => 1
  | refused => 2

/-- The reference is such, and the network and the platform are such, that the command ends so. No
connection is made if no address can be connected, no default context be built or the handshake
fails. -/
def Fits (encode : HostEncoding) (s : Text) (network : Network) (platform : TlsPlatform) :
    Exit → Prop
  | connected => ∃ u secure host, Accepted encode (.text s) u secure host ∧
      Available network platform settings (u.endpoint secure host)
  | unconnected => ∃ u secure host, Accepted encode (.text s) u secure host ∧
      ¬ Available network platform settings (u.endpoint secure host)
  | refused => (∃ e, Refused encode (.text s) e) ∧ ¬ ∃ e, Url.Unencodable encode s e

/-- What a run that ends so has done. All sockets that it has created are closed, each of them once,
and that of the target last of all. -/
def Leaves (encode : HostEncoding) (s : Text) (p : Environment) (run : Run Int) : Exit → Prop
  | connected => ∃ u secure host t raw before, Accepted encode (.text s) u secure host ∧
      (resolve encode overrides (.text s) p).outcome = .ok t ∧
      t.socket = (if secure then .tls raw else .plain raw) ∧
      run.events = before ++ [.close t.socket.name] ∧
      raw.number ∈ createdBy run.events ∧
      ∀ n ∈ createdBy run.events,
        before.countP (·.closes n) = if n = raw.number then 0 else 1
  | unconnected =>
    (∃ e, (resolve encode overrides (.text s) p).outcome = .error e ∧ e.isOs = true) ∧
      ∀ n ∈ createdBy run.events, run.events.countP (·.closes n) = 1
  | refused => ∀ e ∈ run.events, e.phase = .report

theorem code_injective {exit exit' : Exit} (h : exit.code = exit'.code) : exit = exit' := by
  cases exit <;> cases exit' <;> first | rfl | cases h

/-- The command ends in some way, whatever it is given that can be encoded. -/
theorem exists_fits (network : Network) (platform : TlsPlatform)
    (encodable : ¬ ∃ e, Url.Unencodable encode s e) :
    ∃ exit : Exit, exit.Fits encode s network platform := by
  rcases refused_or_accepted encode (.text s) with refused | ⟨u, secure, host, accepted⟩
  · exact ⟨.refused, refused, encodable⟩
  · by_cases available : Available network platform settings (u.endpoint secure host)
    · exact ⟨.connected, u, secure, host, accepted, available⟩
    · exact ⟨.unconnected, u, secure, host, accepted, available⟩

end Exit

/-! ## What becomes of sockets -/

section

variable {network : Network} {platform : TlsPlatform} {u : Url} {secure : Bool} {host : Text}

/-- A refused reference is reported, and nothing else is done. -/
theorem ends_refused (refused : Refused encode (.text (reference arguments)) e)
    (encodable : ¬ ∃ e, Url.Unencodable encode (reference arguments) e) :
    (run encode arguments p).outcome = .ok Exit.refused.code ∧
      Exit.refused.Leaves encode (reference arguments) p (run encode arguments p) := by
  have resolved := resolve_of_error refused.ofReference overrides p
  have location := refused.isLocation encodable
  obtain ⟨reports, run, only⟩ := run_of_error resolved (Or.inl location)
  rw [run, location]
  exact ⟨rfl, only⟩

/-- A reference that cannot be encoded ends the command, and nothing is done or reported. -/
theorem run_of_unencodable {e : Uri.EncodingError}
    (unencodable : Url.Unencodable encode (reference arguments) e) :
    run encode arguments p = ⟨.error (.unencodable e), [], p⟩ :=
  run_of_unknown
    (resolve_of_error (Refused.of_unencodable unencodable).ofReference overrides p) rfl rfl

/-- Once its reference is accepted, the command succeeds if the endpoint is available. -/
theorem hinges_resolve (lookups : network.SystemFaultsOnly) (contexts : platform.SystemFaultsOnly)
    (accepted : Accepted encode (.text s) u secure host) :
    (resolve encode overrides (.text s) (environment network platform)).Hinges
      (Available network platform settings (u.endpoint secure host)) fun t =>
        (∃ raw, t.socket = (if secure then .tls raw else .plain raw)) ∧
          t.socket.closeFault = none := by
  have writable := Url.canWritePort_of_parseWith (mapError_eq_ok.mp accepted.url)
  rw [resolve_of_ok accepted.ofReference]
  exact hinges_dial (p := environment network platform) lookups contexts rfl
    (canWritePort_effectivePort writable secure) rfl rfl

/-- Sockets are opened one after another, and only that of the target is left open. -/
theorem sequential_resolve (encode : HostEncoding) (s : Text) (sockets : p.network.Recoverable) :
    Sequential p.sockets (resolve encode overrides (.text s) p).events
      (resolve encode overrides (.text s) p).environment.sockets
      (handed? ((resolve encode overrides (.text s) p).outcome.map Target.socket)) := by
  refine resolve_sequential sockets fun e _ => ?_
  cases e.secure <;> trivial

/-- Reports have nothing to do with sockets. -/
theorem sequential_reports {reports : List Event} (only : ∀ e ∈ reports, e.phase = .report)
    (n : Nat) : Sequential n reports n none :=
  .of_idle fun e he => Event.idle_of_phase (Or.inr (only e he))

/-- A failure to connect is reported, and all sockets have been closed before. -/
theorem ends_unconnected (sockets : p.network.Recoverable)
    (failed : (resolve encode overrides (.text (reference arguments)) p).outcome = .error e)
    (os : e.isOs = true) :
    (run encode arguments p).outcome = .ok Exit.unconnected.code ∧
      Exit.unconnected.Leaves encode (reference arguments) p (run encode arguments p) := by
  have sequential := sequential_resolve encode (reference arguments) sockets
  rcases resolved : resolve encode overrides (.text (reference arguments)) p with
    ⟨outcome, events, q⟩
  rw [resolved] at failed sequential
  obtain rfl : outcome = .error e := failed
  obtain ⟨reports, run, only⟩ := run_of_error resolved (Or.inr os)
  have location : e.isLocation = false := Kind.isA_location_of_isA_os os
  have whole := sequential.append (sequential_reports only _)
  rw [run, location]
  refine ⟨rfl, ⟨e, by rw [resolved], os⟩, fun n created => ?_⟩
  exact whole.countP_closes_of_mem created

/-- If the socket left open is reported on and then closed, all others have been closed before, each
of them once. -/
theorem createdBy_of_closing {m n i : Nat} {reports : List Event}
    (held : Sequential m events n (some i)) (only : ∀ e ∈ reports, e.phase = .report)
    (name : SocketName) :
    let whole := events ++ (reports ++ [.close name])
    i ∈ createdBy whole ∧
      ∀ j ∈ createdBy whole,
        (events ++ reports).countP (·.closes j) = if j = i then 0 else 1 := by
  intro whole
  have quiet : createdBy (reports ++ [Event.close name]) = [] := by
    refine createdBy_eq_nil fun e he => ?_
    rcases List.mem_append.mp he with he | he
    · exact (Event.idle_of_phase (Or.inr (only e he))).created
    · rw [List.mem_singleton.mp he]
      rfl
  have created : createdBy whole = createdBy events := by
    rw [createdBy_append, quiet, List.append_nil]
  have unclosed (j : Nat) : reports.countP (·.closes j) = 0 := by
    rw [(sequential_reports only 0).countP_closes, if_neg (by omega)]
  rw [created]
  refine ⟨held.mem_createdBy_of_held, fun j created' => ?_⟩
  rw [List.countP_append, unclosed, held.countP_closes_of_mem created', Nat.add_zero]
  simp only [Option.some.injEq, eq_comm]

/-- A target is described and closed, and no other socket is open by then. -/
theorem ends_connected (sockets : p.network.Recoverable)
    (accepted : Accepted encode (.text (reference arguments)) u secure host) {raw : RawSocket}
    (made : (resolve encode overrides (.text (reference arguments)) p).outcome = .ok t)
    (socket : t.socket = (if secure then .tls raw else .plain raw))
    (closes : t.socket.closeFault = none) :
    (run encode arguments p).outcome = .ok Exit.connected.code ∧
      Exit.connected.Leaves encode (reference arguments) p (run encode arguments p) := by
  have sequential := sequential_resolve encode (reference arguments) sockets
  rcases resolved : resolve encode overrides (.text (reference arguments)) p with
    ⟨outcome, events, q⟩
  rw [resolved] at made sequential
  obtain rfl : outcome = .ok t := made
  obtain ⟨reports, run, only⟩ := run_of_ok resolved closes
  have named : t.socket.raw = raw := by
    rw [socket]
    cases secure <;> rfl
  have held : Sequential p.sockets events q.sockets (some raw.number) := by
    rw [← named]
    exact sequential
  rw [run]
  refine ⟨rfl, u, secure, host, t, raw, events ++ reports, accepted, by rw [resolved], socket,
    (List.append_assoc _ _ _).symm, ?_⟩
  exact createdBy_of_closing held only t.socket.name

end

/-! ## Exit codes -/

/-- What the command is given decides how it ends. -/
theorem ends_of_fits {network : Network} {platform : TlsPlatform} {exit : Exit}
    (lookups : network.SystemFaultsOnly) (contexts : platform.SystemFaultsOnly)
    (fits : exit.Fits encode (reference arguments) network platform) :
    (run encode arguments (environment network platform)).outcome = .ok exit.code ∧
      exit.Leaves encode (reference arguments) (environment network platform)
        (run encode arguments (environment network platform)) := by
  cases exit with
  | refused =>
    obtain ⟨⟨e, refused⟩, encodable⟩ := fits
    exact ends_refused refused encodable
  | unconnected =>
    obtain ⟨u, secure, host, accepted, fails⟩ := fits
    obtain ⟨e, failed, os⟩ := (hinges_resolve lookups contexts accepted).exists_error fails
    exact ends_unconnected lookups.sockets failed os
  | connected =>
    obtain ⟨u, secure, host, accepted, available⟩ := fits
    obtain ⟨t, made, ⟨raw, socket⟩, closes⟩ :=
      (hinges_resolve lookups contexts accepted).exists_ok available
    exact ends_connected lookups.sockets accepted made socket closes

/-- **The exit code tells how the command went**, and no socket is left open. The command ends with
an exit code whenever faults are those of the operating system and sockets close, unless its
reference cannot be encoded, which ends it before anything is done. The code tells whether the
reference was refused, before anything was done, or no connection could be made, or one was made and
closed again. -/
theorem run_exits_iff (encode : HostEncoding) (arguments : List Text) {network : Network}
    {platform : TlsPlatform} (lookups : network.SystemFaultsOnly)
    (contexts : platform.SystemFaultsOnly) :
    let s := reference arguments
    let p := environment network platform
    ((∃ exit : Exit, (run encode arguments p).outcome = .ok exit.code) ↔
      ¬ ∃ e, Url.Unencodable encode s e) ∧
    (∀ e, Url.Unencodable encode s e → run encode arguments p = ⟨.error (.unencodable e), [], p⟩) ∧
    ∀ exit : Exit,
      ((run encode arguments p).outcome = .ok exit.code ↔ exit.Fits encode s network platform) ∧
      ((run encode arguments p).outcome = .ok exit.code →
        exit.Leaves encode s p (run encode arguments p)) := by
  intro s p
  have raises (e : Uri.EncodingError) (h : Url.Unencodable encode s e) :
      run encode arguments p = ⟨.error (.unencodable e), [], p⟩ := run_of_unencodable h
  have encodable {exit : Exit} (h : (run encode arguments p).outcome = .ok exit.code) :
      ¬ ∃ e, Url.Unencodable encode s e := by
    rintro ⟨e, unencodable⟩
    rw [raises e unencodable] at h
    cases h
  -- With a code, the ending is the one that fits.
  have fits {exit : Exit} (h : (run encode arguments p).outcome = .ok exit.code) :
      exit.Fits encode s network platform ∧ exit.Leaves encode s p (run encode arguments p) := by
    obtain ⟨other, fits⟩ := Exit.exists_fits network platform (encodable h)
    obtain ⟨ended, leaves⟩ := ends_of_fits lookups contexts fits
    obtain rfl := Exit.code_injective (Except.ok.inj (ended.symm.trans h))
    exact ⟨fits, leaves⟩
  refine ⟨⟨fun ⟨_, h⟩ => encodable h, fun h => ?_⟩, raises, fun exit =>
    ⟨⟨fun h => (fits h).1, fun h => (ends_of_fits lookups contexts h).1⟩, fun h => (fits h).2⟩⟩
  obtain ⟨exit, fits⟩ := Exit.exists_fits network platform h
  exact ⟨exit, (ends_of_fits lookups contexts fits).1⟩

theorem thirdConnects_systemFaultsOnly : thirdConnects.SystemFaultsOnly where
  lookups host port f writable failed := by
    have found := (Network.of_apply writable host).symm.trans failed
    cases found
  sockets := thirdConnects_recoverable

/-- The default reference, with TLS, where two addresses fail and the third one is connected. -/
theorem run_exits_thirdConnects :
    let p := environment thirdConnects {}
    (thirdConnects.SystemFaultsOnly ∧ ({} : TlsPlatform).SystemFaultsOnly) ∧
    (run .asciiOnly [] p).outcome = .ok 0 ∧
    createdBy (run .asciiOnly [] p).events = [1, 2] ∧
    ∃ before, (run .asciiOnly [] p).events = before ++ [.close (.tls 2)] ∧
      before.countP (·.closes 1) = 1 ∧ before.countP (·.closes 2) = 0 := by
  intro p
  have lookups : thirdConnects.SystemFaultsOnly := thirdConnects_systemFaultsOnly
  have contexts : ({} : TlsPlatform).SystemFaultsOnly := nofun
  have outcome : (run .asciiOnly [] p).outcome = .ok 0 := toOption_eq_some.mp (by decide +kernel)
  have created : createdBy (run .asciiOnly [] p).events = [1, 2] := by
    decide +kernel
  have last : (run .asciiOnly [] p).events.getLast? = some (.close (.tls 2)) := by decide +kernel
  obtain ⟨-, secure, -, t, raw, before, -, -, socket, events, -, closes⟩ :=
    ((run_exits_iff .asciiOnly [] lookups contexts).2.2 .connected).2 outcome
  rw [events, List.getLast?_concat] at last
  have name : t.socket.name = .tls 2 := Event.close.inj (Option.some.inj last)
  have number : raw.number = 2 := by
    rw [socket] at name
    cases secure with
    | true => exact SocketName.tls.inj name
    | false => cases name
  rw [created, number] at closes
  refine ⟨⟨lookups, contexts⟩, outcome, created, before, ?_, closes 1 (by simp), closes 2 (by simp)⟩
  rw [events, name]

/-- The argument is a reference to a known host with a path that cannot be encoded. The command does
not return, whatever the network. -/
theorem run_exits_surrogate :
    let s : Text := "ws://h/".toText ++ [.surrogate 0x4FF]
    let p := environment thirdConnects {}
    (thirdConnects.SystemFaultsOnly ∧ ({} : TlsPlatform).SystemFaultsOnly) ∧
    run .asciiOnly [s] p = ⟨.error (.unencodable ⟨1, [.surrogate 0x4FF]⟩), [], p⟩ ∧
    ∀ exit : Exit, (run .asciiOnly [s] p).outcome ≠ .ok exit.code := by
  intro s p
  have unencodable : Url.Unencodable .asciiOnly s ⟨1, [.surrogate 0x4FF]⟩ :=
    Url.parseWith_eq_unencodable_iff.mp rfl
  have raises : run .asciiOnly [s] p = ⟨.error (.unencodable ⟨1, [.surrogate 0x4FF]⟩), [], p⟩ :=
    run_of_unencodable unencodable
  refine ⟨⟨thirdConnects_systemFaultsOnly, nofun⟩, raises, fun exit ended => ?_⟩
  rw [raises] at ended
  cases ended

end Command

end Dialer
