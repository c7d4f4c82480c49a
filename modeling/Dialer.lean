import Dialer.Main
import Dialer.Session
import Dialer.Proofs.Text.Cut
import Dialer.Proofs.Text.Ascii
import Dialer.Proofs.Unicode.Lowercase
import Dialer.Proofs.Idna.DomainNames
import Dialer.Proofs.Host.Literals
import Dialer.Proofs.Uri.Grammar
import Dialer.Proofs.Uri.Characters
import Dialer.Proofs.Uri.Ports
import Dialer.Proofs.Uri.Parsing
import Dialer.Proofs.Uri.Pieces
import Dialer.Proofs.Uri.Surrogates
import Dialer.Proofs.Uri.Splitting
import Dialer.Proofs.Uri.Rules
import Dialer.Proofs.Uri.Acceptance
import Dialer.Proofs.Uri.Authorities
import Dialer.Proofs.Uri.HostForm
import Dialer.Proofs.Uri.NormalForm
import Dialer.Proofs.Uri.Printing
import Dialer.Proofs.Uri.Encoding
import Dialer.Proofs.Uri.Rendering
import Dialer.Proofs.Action.Runs
import Dialer.Proofs.Connect.Attempts
import Dialer.Proofs.Action.Phases
import Dialer.Proofs.Resolver.Stages
import Dialer.Proofs.Resolver.Defaults
import Dialer.Proofs.Resolver.SingleDial
import Dialer.Proofs.Resolver.Handshake
import Dialer.Proofs.Connect.Lifetimes
import Dialer.Proofs.Resolver.Ownership
import Dialer.Proofs.Resolver.Assembly
import Dialer.Proofs.Resolver.Shapes
import Dialer.Proofs.Tls.OnDemand
import Dialer.Proofs.Tls.Layering
import Dialer.Proofs.Resolver.Histories
import Dialer.Proofs.Resolver.Sessions
import Dialer.Proofs.Resolver.Sharing
import Dialer.Proofs.Resolver.Precedence
import Dialer.Proofs.Connect.FirstSuccess
import Dialer.Proofs.Connect.Leaks
import Dialer.Proofs.Tls.Building
import Dialer.Proofs.Tls.Verification
import Dialer.Proofs.Uri.Hostless
import Dialer.Proofs.Uri.StrayBrackets
import Dialer.Proofs.Host.Bracketing
import Dialer.Proofs.Resolver.Spellings
import Dialer.Proofs.Resolver.Lookups
import Dialer.Proofs.Resolver.Schemes
import Dialer.Proofs.Resolver.Refusals
import Dialer.Proofs.Uri.LetterCase
import Dialer.Proofs.Command.ExitCodes
