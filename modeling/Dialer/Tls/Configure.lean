import Dialer.Operation
import Dialer.Tls.Requirement

/-!
# Configured TLS contexts

* `buildContext` creates a context and configures it step by step (`configure`). The first step that
  fails ends it, so a context that is returned has been configured in full.
-/

namespace Dialer.Tls

open Dialer.Action

/-- How a context is configured. -/
structure ContextConfig where
  requirement : Requirement := .unstated
  options : Option Int := none
  ciphers : Option Text := none
  minimumVersion : Option Int := none
  maximumVersion : Option Int := none
  /-- The file with the certificates of authorities. -/
  authorities : Option Text := none

/-- The bits that are set in one of two integers, in two's complement. -/
def unionBits : Int → Int → Int
  | .ofNat m, .ofNat n => .ofNat (m ||| n)
  | .ofNat m, .negSucc n => .negSucc (n ^^^ (m &&& n))
  | .negSucc m, .ofNat n => .negSucc (m ^^^ (m &&& n))
  | .negSucc m, .negSucc n => .negSucc (m &&& n)

/-- The least number of bits in a set of options. -/
def optionBits : Nat := 32

/-- Options with the one against compression. They are a set of flags, so that a negative number
gives way to the bits that it stands for. -/
def withoutCompression (options : Int) : Int :=
  let joined := unionBits options noCompression
  let width := max optionBits (joined.natAbs.log2 + 1)
  if joined < 0 then joined + Int.ofNat (1 <<< width) else joined

/-- The options of a context that had `initial` ones, of which a caller may ask for more. -/
def optionsFrom (initial : Int) : Option Int → Int
  | none => withoutCompression initial
  | some more => unionBits initial more

/-- Where the certificates of authorities come from: a file, unless it is not named. -/
def authoritiesOf : Option Text → Authorities
  | none | some [] => .bundled
  | some path => .file path

/-- The failure to load certificates, as the caller sees it. -/
def loadFailure (e : Failure) : Failure := if e.isOs then .noAuthorities e else e

/-- Loads certificates. -/
def loadAuthorities (c : Context) (authorities : Option Text) : Action Unit := do
  match ← (c.loadAuthorities (authoritiesOf authorities)).attempt with
  | .ok () => pure ()
  | .error e => fail (loadFailure e)

/-- Configures a context. Host names go unchecked only where no certificate is asked for, and that
is settled before the requirement is relaxed. -/
def configure (config : ContextConfig) (context : Context) : Action Context := do
  let platform := (← environment).platform
  let requirement ← ofExcept (config.requirement.resolve platform.constants)
  context.assign (.options (optionsFrom platform.initialOptions config.options))
  if platform.postHandshakeAuth then context.assign (.postHandshakeAuth true)
  if requirement = .number noCertificate then context.assign (.checkHostname false)
  context.assign (.verifyMode requirement)
  config.minimumVersion.forM fun version => context.assign (.minimumVersion version)
  config.maximumVersion.forM fun version => context.assign (.maximumVersion version)
  let ciphers := config.ciphers.getD []
  if !ciphers.isEmpty then context.setCiphers ciphers
  if requirement ≠ .number noCertificate then loadAuthorities context config.authorities
  return context

/-- Creates and configures a context. -/
def buildContext (config : ContextConfig) : Action Context := do
  configure config (← newContext)

end Dialer.Tls
