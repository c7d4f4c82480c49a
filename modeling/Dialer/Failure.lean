import Dialer.Fault
import Dialer.Uri.Parse

/-!
# Failures

* `ReferenceError` says why a reference names no endpoint.
* `Failure` is any way in which an operation ends without a result. A fault from outside is handed
  through as it is. `Failure.kind`, `Failure.message` and `Failure.cause` are what a caller sees.
-/

namespace Dialer

/-! ## References that name no endpoint -/

/-- Why a reference names no endpoint. -/
inductive ReferenceError
  /-- No reference at all. -/
  | missing
  /-- No object to ask for its URL. -/
  | missingLocator
  /-- An object of a type, named so, that is no reference. -/
  | unsupported (type : Text)
  /-- A text that is no URL. -/
  | unparsable (text : Text) (reason : ParseError)
  /-- An object whose URL is a text that is none. -/
  | unconvertible (text : Text) (reason : ParseError)
  /-- An object whose URL is bytes that are not ASCII. -/
  | undecodable (bytes : List UInt8)
  /-- A URL without a scheme. -/
  | noScheme
  | unknownScheme (scheme : Text)
  /-- A URL, printed as `location`, without a host. -/
  | emptyHost (location : Text)

/-- What is said of bytes that are not ASCII. -/
def undecodableMessage (bytes : List UInt8) : Text :=
  let position := bytes.findIdx fun b => 128 ≤ b.toNat
  let byte := ((bytes[position]?).getD 0).toNat
  "'ascii' codec can't decode byte 0x" ++ (Text.hexLower 2 byte)
    ++ " in position " ++ (Text.digits position) ++ ": ordinal not in range(128)"

namespace ReferenceError

/-- The kind of the error. -/
def kind : ReferenceError → Kind
  | missing | missingLocator | unsupported _ | unconvertible .. | undecodable _ | noScheme =>
    .location
  | unparsable .. => .unparsable
  | unknownScheme _ => .unknownScheme
  | emptyHost _ => .emptyHost

/-- What the error says. -/
def message : ReferenceError → Text
  | missing => "The given URI is None."
  | missingLocator => "The given URL is None."
  | unsupported type => "Unsupported URI type: " ++ type
  | unparsable text reason =>
    unparsableMessage (.text text) (.text reason.message)
  | unconvertible text _ =>
    "Failed to convert the given URL into a URI: " ++ (Text.quoted text)
  | undecodable bytes =>
    "Failed to convert the given URL into a URI: " ++ (Text.quotedBytes bytes)
  | noScheme => "The scheme part is empty."
  | unknownScheme scheme => unknownSchemeMessage (.text scheme)
  | emptyHost _ => emptyHostMessage

/-- What the error goes back to: its kind, and its text where that is settled. -/
def cause : ReferenceError → Option (Kind × Option Text)
  | unparsable _ (.authority error) => some (.value, some error.message)
  | unparsable _ (.invalidHost _) => some (.domainName, none)
  | unconvertible text reason =>
    some (.unparsable, some (message (.unparsable text reason)))
  | undecodable bytes => some (.decoding, some (undecodableMessage bytes))
  | _ => none

end ReferenceError

/-! ## Failures -/

/-- How an operation ends without a result. -/
inductive Failure
  /-- An error from outside. -/
  | fault (f : Fault)
  /-- A reference names no endpoint. -/
  | reference (e : ReferenceError)
  /-- A component of a reference cannot be written in UTF-8. -/
  | unencodable (e : Uri.EncodingError)
  /-- A text handed over to be split has a malformed authority. -/
  | unsplittable (e : Uri.AuthorityError)
  /-- A certificate requirement has an unknown name. -/
  | unknownRequirement (name : Text)
  /-- The certificates of a TLS context cannot be loaded. -/
  | noAuthorities (cause : Failure)
  /-- The lookup of a name finds no address. -/
  | noAddress
  /-- A log level has an unknown name. -/
  | unknownLevel (name : Text)
  /-- A factory of a class, named so, that has no TLS context is asked for it. -/
  | noContext (className : Text)
  /-- A number has more digits than may be written. -/
  | unwritable

namespace Failure

/-- The kind of the failure. -/
def kind : Failure → Kind
  | fault f => f.kind
  | reference e => e.kind
  | unencodable _ => .encoding
  | unsplittable _ | unknownLevel _ | unwritable => .value
  | unknownRequirement _ | noContext _ => .attribute
  | noAuthorities _ => .noDefault
  | noAddress => .os

/-- What the failure says. -/
def message : Failure → Text
  | fault f => f.message
  | reference e => e.message
  | unencodable e => e.message
  | unsplittable e => e.message
  | unknownRequirement name =>
    "module 'ssl' has no attribute 'CERT_" ++ name ++ "'"
  | noAuthorities cause => "Unable to load CA certificates: " ++ cause.message
  | noAddress => "getaddrinfo returns an empty list"
  | unknownLevel name => "Unknown level: " ++ (Text.quoted name)
  | noContext className => "'" ++ className ++ "' object has no attribute 'ssl_context'"
  | unwritable =>
    "Exceeds the limit (" ++ (Text.digits Text.maxDigits)
      ++ " digits) for integer string conversion; use sys.set_int_max_str_digits() to increase "
      ++ "the limit"

/-- What the failure goes back to. -/
def cause : Failure → Option (Kind × Option Text)
  | reference e => e.cause
  | noAuthorities cause => some (cause.kind, some cause.message)
  | _ => none

/-- The reference that the failure is about, for the kinds that name one. -/
def location : Failure → Option Atom
  | reference (.unparsable text _) => some (.text text)
  | reference (.emptyHost text) => some (.text text)
  | fault f =>
    match f.kind with
    | .unparsable | .emptyHost => some (f.arguments.head?.getD .none)
    | _ => none
  | _ => none

/-- The scheme that the failure is about, for the kind that names one. -/
def scheme : Failure → Option Atom
  | reference (.unknownScheme scheme) => some (.text scheme)
  | fault f =>
    match f.kind with
    | .unknownScheme => some (f.arguments.head?.getD .none)
    | _ => none
  | _ => none

/-- The failure of a parser. What is wrong with a text is an error of the reference. That it cannot
be encoded is not. -/
def ofParse (wrap : ParseError → ReferenceError) : ParseError → Failure
  | .unencodable e => .unencodable e
  | reason => .reference (wrap reason)

/-- Whether the operating system is at fault, which is what dialling recovers from. -/
def isOs (f : Failure) : Bool := f.kind.isA .os

/-- Whether the reference is at fault. -/
def isLocation (f : Failure) : Bool := f.kind.isA .location

end Failure

end Dialer
