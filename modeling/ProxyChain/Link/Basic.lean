import ProxyChain.Link.Base64Url
import ProxyChain.Profile.Payload
import ProxyChain.Text.Blank
import ProxyChain.Text.Cut
import ProxyChain.Zlib.Stream

/-!
# Links

A link carries one profile: `husi://`, the name of its kind, `?`, and its payload, compressed and in
base64. An older form has `:`, a segment that is ignored, `:` and the payload in base64 as it is; it
is read but never written.

A payload may be spelled in the standard alphabet, padded, and broken up by blanks.
-/

namespace ProxyChain

open Wire

/-- What is wrong with the text of a link. -/
inductive LinkFault where
  | scheme
  | noPayload
  | base64
  | compression
  deriving DecidableEq, Repr

/-- Why a link gives no profile. -/
inductive LinkError where
  /-- The text is not that of a link. -/
  | malformed (fault : LinkFault)
  /-- No kind has the name. -/
  | unknownName (name : String)
  /-- The payload holds no profile. -/
  | payload (error : PayloadError)
  deriving DecidableEq, Repr

namespace Link

/-- What every link starts with. -/
def scheme : String := "husi://"

end Link

/-- What is wrong with the text, in words. -/
def LinkFault.message : LinkFault → String
  | scheme => s!"expected {Link.scheme} prefix"
  | noPayload => "missing payload"
  | base64 => "bad base64 payload"
  | compression => "bad compressed payload"

/-- What went wrong, in words. -/
def LinkError.message : LinkError → String
  | malformed fault => s!"malformed link: {fault.message}"
  | unknownName name => s!"unknown profile type: {name}"
  | payload e => e.message

namespace Link

/-- A letter of the standard alphabet in the URL alphabet. -/
def urlLetter (c : Char) : Char :=
  if c = '+' then '-' else if c = '/' then '_' else c

/-- A payload without padding and blanks, in the URL alphabet. -/
def normalize (text : List Char) : List Char :=
  ((Text.dropEndWhile (· == '=') (Text.strip text)).filter fun c => !Text.isBlank c).map urlLetter

/-- The bytes of a payload. -/
def payloadBytes (text : List Char) : Except LinkError Bytes :=
  match Base64Url.decode? (normalize text) with
  | some bytes => .ok bytes
  | none => .error (.malformed .base64)

/-- The kind of a name in a link. -/
def kindOf (name : List Char) : Except LinkError Profile.Kind :=
  match Profile.Kind.ofName? (String.ofList name) with
  | some kind => .ok kind
  | none => .error (.unknownName (String.ofList name))

/-- The profile of a kind in a payload. -/
def profileOf (kind : Profile.Kind) (bytes : Bytes) : Except LinkError Profile :=
  match Profile.decode kind.tag bytes with
  | .ok p => .ok p
  | .error e => .error (.payload e)

/-- The profile in a compressed payload behind a name. -/
def decodeCompressed (name text : List Char) : Except LinkError Profile := do
  let kind ← kindOf name
  match Zlib.decompress? (← payloadBytes text) with
  | none => throw (.malformed .compression)
  | some bytes => profileOf kind bytes

/-- The profile in the older form behind a name. -/
def decodePlain (name rest : List Char) : Except LinkError Profile := do
  let kind ← kindOf name
  match Text.cut ':' rest with
  | none => throw (.malformed .noPayload)
  | some (_, text) => profileOf kind (← payloadBytes text)

/-- The profile in a link without its scheme. The first `?` makes it a compressed one. -/
def decodeBody (body : List Char) : Except LinkError Profile :=
  match Text.cut '?' body with
  | some (name, text) => decodeCompressed name text
  | none =>
    match Text.cut ':' body with
    | some (name, rest) => decodePlain name rest
    | none => .error (.malformed .noPayload)

/-- The profile in a link, between blanks. -/
def decode (link : String) : Except LinkError Profile :=
  match Text.dropStart? scheme.toList (Text.strip link.toList) with
  | none => .error (.malformed .scheme)
  | some body => decodeBody body

/-- What a link starts with, up to the payload. -/
def start (kind : Profile.Kind) : String := scheme ++ kind.name ++ "?"

/-- The link of a profile. -/
def encode (p : Profile) : String :=
  start p.kind ++ String.ofList (Base64Url.encode (Zlib.compress p.encode))

end Link

end ProxyChain
