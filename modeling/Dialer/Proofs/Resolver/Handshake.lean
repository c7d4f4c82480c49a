import Dialer.Proofs.Resolver.SingleDial
import Dialer.Proofs.Unicode.Lowercase

/-!
# Secure endpoints

A reference with a scheme that asks for TLS is never resolved to a bare socket, as long as the
factory for TLS connections is not one of the caller's own.

* `Overrides.secureSource?` is the source of the TLS context by precedence.
* `resolve_secure` says that a secure endpoint that is resolved has been wrapped, once, with that
  context, over the socket just connected, and under the name that was looked up.
-/

namespace Dialer

open Dialer.Action

/-! ## Schemes -/

/-- The schemes of connections with TLS or of plain ones. -/
def schemesFor (secure : Bool) : List Text := if secure then secureSchemes else plainSchemes

theorem lower_mem_schemesFor_iff {scheme : Text} {secure : Bool} :
    Unicode.lower scheme ∈ schemesFor secure ↔
      scheme.map CodePoint.toLower ∈ schemesFor secure := by
  have each (known : Text) (mem : known ∈ schemesFor secure) :
      Unicode.lower scheme = known ↔ scheme.map CodePoint.toLower = known := by
    have plain : ∀ secure, ∀ known ∈ schemesFor secure,
        Text.isAscii known = true ∧ char 'k' ∉ known := by decide
    exact Unicode.lower_eq_iff (plain secure known mem).1 (plain secure known mem).2
  constructor
  · intro mem
    rwa [(each _ mem).mp rfl]
  · intro mem
    rwa [(each _ mem).mpr rfl]

/-- **The decision for TLS** goes by the letters of the scheme, whatever their case. -/
theorem isSecure_eq_ok_iff {scheme : Text} {secure : Bool} :
    isSecure (some scheme) = .ok secure ↔ scheme.map CodePoint.toLower ∈ schemesFor secure := by
  rw [← lower_mem_schemesFor_iff]
  cases scheme with
  | nil =>
    refine iff_of_false nofun ?_
    cases secure <;> decide
  | cons c s =>
    have apart : ∀ known ∈ secureSchemes, known ∉ plainSchemes := by decide
    rw [isSecure]
    · simp only [List.contains_iff_mem]
      split
      next mem =>
        cases secure with
        | true => exact iff_of_true rfl mem
        | false => exact iff_of_false nofun (apart _ mem)
      next other =>
        split
        next mem =>
          cases secure with
          | true => exact iff_of_false nofun other
          | false => exact iff_of_true rfl mem
        next other' =>
          cases secure with
          | true => exact iff_of_false nofun other
          | false => exact iff_of_false nofun other'
    · exact nofun

/-- Letter case does not matter to schemes that ask for TLS. -/
theorem isSecure_of_map_toLower {scheme : Text} (h : scheme.map CodePoint.toLower ∈ secureSchemes) :
    isSecure (some scheme) = .ok true := isSecure_eq_ok_iff.mpr h

/-! ## Precedence -/

/-- The source of the TLS context for secure endpoints: the context, or else the factory for TLS
connections, or else the process-wide one. None if that factory is not for TLS. -/
def Overrides.secureSource? (o : Overrides) : Option ContextSource :=
  match o.context, o.tlsFactory with
  | some context, _ => some (.given context)
  | none, none => some (.onDemand .processWide)
  | none, some factory =>
    match factory.opener with
    | .tls _ source => some source
    | _ => none

theorem Overrides.exists_opener {o : Overrides} {source : ContextSource}
    (h : o.secureSource? = some source) :
    ∃ settings, o.opener true = .tls settings source := by
  obtain ⟨plain, _ | ⟨origin, opener⟩, _ | context⟩ := o
  · exact ⟨{}, congrArg (Opener.tls {}) (Option.some.inj h)⟩
  · exact ⟨{}, congrArg (Opener.tls {}) (Option.some.inj h)⟩
  · cases opener with
    | tls settings source' => exact ⟨settings, congrArg (Opener.tls settings) (Option.some.inj h)⟩
    | plain | supplied => cases h
  · exact ⟨{}, congrArg (Opener.tls {}) (Option.some.inj h)⟩

/-! ## Sockets with TLS -/

theorem TlsCreation.ok {settings : ConnectSettings} {source : ContextSource} {host : Text}
    {port : Int} {p q : Environment} {socket : Socket} {events : List Event}
    (h : TlsCreation settings source host port p ⟨.ok socket, events, q⟩) :
    ∃ c built middle raw dialled, source.context p = ⟨.ok c, built, middle⟩ ∧
      connect settings host port middle = ⟨.ok raw, dialled, q⟩ ∧ socket = .tls raw ∧
      events = built ++ (dialled ++ [.wrap c.name raw.number (some (Host.unbracketed host))]) := by
  cases h with
  | wrapped context connected handshake => exact ⟨_, _, _, _, _, context, connected, rfl, rfl⟩

/-- **Secure endpoints get TLS**, and the certificate is checked for the name that was looked up. A
reference with a scheme for TLS, in any case, is resolved to a socket that is wrapped once: by the
context that precedence selects, over the socket that the call has just created and connected,
which is the last step before, and with the name of its only lookup. -/
theorem resolve_secure {o : Overrides} {r : Reference} {u : Url} {scheme : Text}
    {source : ContextSource} {p q : Environment} {t : Target} {events : List Event}
    (url : r.toUrl encode = .ok u) (schemed : u.scheme = some scheme)
    (asks : scheme.map CodePoint.toLower ∈ secureSchemes) (selected : o.secureSource? = some source)
    (resolved : resolve encode o r p = ⟨.ok t, events, q⟩) :
    t.secure = true ∧ some t.host = u.host ∧
      ∃ (c : Context) (raw : RawSocket) (name : Text) (before between : List Event),
      t.socket = .tls raw ∧
      source.present? q = some c ∧ (∀ c', source.present? p = some c' → c' = c) ∧
      name = Host.unbracketed t.host ∧
      events = before ++ .lookup name t.port :: (between ++
        [.connect raw.number raw.peer, .wrap c.name raw.number (some name)]) ∧
      (∀ e ∈ before, e.phase = .context ∨ e.phase = .report) ∧
      (∀ e ∈ between, e.phase = .socket) ∧
      p.sockets < raw.number ∧ raw.number = q.sockets := by
  have secure : isSecure u.scheme = .ok true := by
    rw [schemed]
    exact isSecure_of_map_toLower asks
  rcases refused_or_accepted encode r with ⟨e, refused⟩ | ⟨u', secure', host, accepted⟩
  · rw [resolve_of_error refused.ofReference] at resolved
    cases resolved
  obtain rfl := Except.ok.inj (accepted.url.symm.trans url)
  obtain rfl := Except.ok.inj (accepted.scheme.symm.trans secure)
  obtain ⟨selection, started, middle, -, frame, quiet, run⟩ :=
    dial_apply o (u'.endpoint true host) p
  obtain ⟨settings, opener⟩ := Overrides.exists_opener selected
  have call : (o.factory p (u'.endpoint true host).secure).createSocket (u'.endpoint true host).host
      (u'.endpoint true host).port middle =
      createTlsSocket settings source host (effectivePort u'.port true) middle :=
    congrFun (createSocket_tls ((o.opener_factory p true).trans opener) _ _) middle
  rw [resolve_of_ok accepted.ofReference, run, call] at resolved
  have creation :=
    tlsCreation_createTlsSocket settings source host (effectivePort u'.port true) middle
  rcases created : createTlsSocket settings source host (effectivePort u'.port true) middle
    with ⟨e | socket, opened, final⟩
  · rw [created] at resolved
    cases resolved
  rw [created] at creation resolved
  obtain ⟨handed, rfl, rfl⟩ := Run.mk.inj resolved
  obtain rfl := Endpoint.eq_target_of_handOver handed
  obtain ⟨c, built, before, raw, dialled, context, connected, rfl, rfl⟩ := creation.ok
  obtain ⟨⟨between, rfl, only⟩, later, last⟩ := connect_eq_ok connected
  obtain ⟨present, kept⟩ := context_eq_ok context
  have steady := keeps_context_steady source middle
  have within := keeps_context_within source middle
  rw [context] at steady within
  obtain ⟨n, counted⟩ := connect_environment settings host (effectivePort u'.port true) before
  rw [connected] at counted
  have held : final.held = before.held := by rw [show final = _ from counted]
  refine ⟨rfl, accepted.named.symm, c, raw, Host.unbracketed host, selection ++ started ++ built,
    between, rfl, ?_, fun c' h => ?_, rfl, ?_, ?_, only, ?_, last⟩
  · rw [← present]
    exact present?_of_held_eq source held
  · exact kept c' ((present?_of_held_eq source frame.held).trans h)
  · simp [Run.andThen, Url.endpoint, Endpoint.target]
  · intro e he
    rcases List.mem_append.mp he with he | he
    · exact Or.inr (quiet e he)
    · simpa using within e he
  · rw [← frame.sockets, ← steady.sockets]
    exact later

/-- A network with two addresses for every name, the first of which refuses connections. -/
def refusingFirst : Network := .of fun _ _ => .found [
  { family := 2
    address := [.text "192.0.2.1".toText]
    faults := fun step => if step = .connect then some ⟨.connectionRefused, []⟩ else none },
  { family := 10, address := [.text "::1".toText], faults := fun _ => none }]

/-- A host with unbalanced brackets and a scheme in mixed case, with the process-wide factory. -/
theorem resolve_secure_unbalanced :
    let u : Url := { scheme := some "hTTpS".toText, host := some "[[::1]".toText }
    let p : Environment :=
      { network := refusingFirst, platform := {}, logging := ⟨10, 30, [.listener]⟩ }
    (Reference.url u).toUrl .asciiOnly = .ok u ∧
      "hTTpS".toText.map CodePoint.toLower ∈ secureSchemes ∧
    Overrides.secureSource? {} = some (.onDemand .processWide) ∧
    ∃ (t : Target) (events : List Event) (q : Environment),
      resolve .asciiOnly {} (.url u) p = ⟨.ok t, events, q⟩ ∧ t.secure = true ∧
      ∃ (c : Context) (raw : RawSocket) (before between : List Event),
        t.socket = .tls raw ∧ q.held .processWide = some c ∧
        events = before ++ .lookup "::1".toText t.port :: (between ++
          [.connect raw.number raw.peer, .wrap c.name raw.number (some "::1".toText)]) := by
  intro u p
  have asks : "hTTpS".toText.map CodePoint.toLower ∈ secureSchemes := by decide
  rcases run : resolve .asciiOnly {} (.url u) p with ⟨e | t, events, q⟩
  · have done : (resolve .asciiOnly {} (.url u) p).outcome.toBool = true := by decide +kernel
    rw [run] at done
    cases done
  obtain ⟨secure, host, c, raw, name, before, between, socket, held, -, named, order, -⟩ :=
    resolve_secure (r := .url u) (p := p) rfl rfl asks rfl run
  have dialled : t.host = "[[::1]".toText := Option.some.inj host
  obtain rfl : name = "::1".toText := by
    rw [named, dialled]
    decide
  exact ⟨rfl, asks, rfl, t, events, q, rfl, secure, c, raw, before, between, socket, held, order⟩

end Dialer
