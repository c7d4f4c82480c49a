import Dialer.Failure

/-!
# References

What callers hand over to name an endpoint, and its reduction to a URL.

* `Reference.toUrl` takes any reference to a URL.
* `Reference.convert` does so for objects that know their URL.
-/

namespace Dialer

open Uri

/-- What an object says its URL is. -/
inductive Rendering
  | missing
  | text (s : Text)
  | bytes (b : List UInt8)

/-- What a caller may hand over. -/
inductive Reference
  | missing
  | text (s : Text)
  | url (u : Url)
  /-- Generic parts, whose URL is their text. -/
  | parts (p : Parts)
  | paramParts (p : ParamParts)
  /-- A text to be taken apart into generic parts first. -/
  | split (s : Text)
  | splitParams (s : Text)
  /-- An object that is asked for its URL and may fail to answer. -/
  | locator (answer : Except Fault Rendering)
  /-- An object of a type, named so, that is no reference. -/
  | unsupported (type : Text)

namespace Reference

variable (encode : HostEncoding)

/-- The URL of a text. -/
def parse (s : Text) : Except Failure Url :=
  (Url.parseWith encode s).mapError (.ofParse (.unparsable s))

/-- What an object that knows its URL says it is; none for other references. -/
def rendering? : Reference → Option (Except Failure Rendering)
  | parts p => some (.ok (.text p.toText))
  | paramParts p => some (.ok (.text p.toText))
  | split s => some (((Parts.split s).mapError .unsplittable).map fun p => .text p.toText)
  | splitParams s =>
    some (((ParamParts.split s).mapError .unsplittable).map fun p => .text p.toText)
  | locator answer => some (answer.mapError .fault)
  | _ => none

/-- The URL of a text that an object gave. -/
def convertText (s : Text) : Except Failure Url :=
  (Url.parseWith encode s).mapError (.ofParse (.unconvertible s))

/-- The URL of what an object gave. -/
def convertRendering : Rendering → Except Failure Url
  | .missing => .error (.reference .missing)
  | .text s => convertText encode s
  | .bytes b =>
    if b.all fun byte => byte.toNat < 128 then
      convertText encode (b.map fun byte => CodePoint.ofNat byte.toNat)
    else .error (.reference (.undecodable b))

/-- The URL that any reference stands for. -/
def toUrl (r : Reference) : Except Failure Url :=
  match r.rendering? with
  | some rendering => rendering.bind (convertRendering encode)
  | none =>
    match r with
    | text s => parse encode s
    | url u => .ok u
    | unsupported type => .error (.reference (.unsupported type))
    | _ => .error (.reference .missing)

/-- The URL of an object that knows it. -/
def convert (r : Reference) : Except Failure Url :=
  match r with
  | missing => .error (.reference .missingLocator)
  | _ => r.toUrl encode

end Reference

end Dialer
