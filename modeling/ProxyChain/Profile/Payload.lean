import ProxyChain.Profile.Kind
import ProxyChain.Wire.Text

/-!
# Profiles as bytes

A payload is a version, the endpoint and the settings. Only Hysteria's settings have changed over
time: version 1 added the hop interval, version 2 the encrypted client hello. The kind is not part of
the payload, and bytes after it are ignored.
-/

namespace ProxyChain

open Wire

/-- Why a payload holds no profile. -/
inductive PayloadError where
  /-- No kind has the tag. -/
  | unknownTag (tag : Int32)
  /-- There are no bytes. -/
  | empty (tag : Int32)
  /-- The bytes cannot be read. -/
  | read (error : ReadError)
  deriving DecidableEq, Repr

/-- What went wrong, in words. -/
def PayloadError.message : PayloadError → String
  | .unknownTag tag => s!"unknown profile type tag: {Text.showInt tag.toInt}"
  | .empty tag => s!"empty profile payload for type {Text.showInt tag.toInt}"
  | .read e => e.message

namespace Endpoint

/-- The bytes of an endpoint. -/
def write (e : Endpoint) : Bytes :=
  writeString e.name ++ writeString e.address ++ writeInt32 (Int32.ofNat e.port.toNat) ++
    writeBool e.multiplex.enabled ++ writeBool e.multiplex.padding ++
    writeCoded e.multiplex.protocol ++ writeCoded e.multiplex.limit ++
    writeInt32 e.multiplex.number ++ writeBool e.multiplex.brutal

/-- Reads an endpoint. -/
def read : Reader Endpoint := do
  let name ← Reader.string
  let address ← Reader.string
  let port ← Reader.coded "server port" fun n => Text.fitUInt16? n.toInt
  let enabled ← Reader.bool
  let padding ← Reader.bool
  let protocol ← Reader.codedField "mux protocol"
  let limit ← Reader.codedField "mux strategy"
  let number ← Reader.int32
  let brutal ← Reader.bool
  return { name, address, port,
           multiplex := { enabled, padding, protocol, limit, number, brutal } }

end Endpoint

namespace Trojan

/-- The bytes of Trojan settings. -/
def write (t : Trojan) : Bytes :=
  writeString t.password ++ writeString t.sni ++ writeString t.alpn ++
    writeString t.certificates ++ writeBool t.allowInsecure ++ writeString t.utlsFingerprint ++
    writeString t.realityPublicKey ++ writeString t.realityShortId ++ writeBool t.ech ++
    writeString t.echConfig

/-- Reads Trojan settings. -/
def read : Reader Trojan := do
  let password ← Reader.string
  let sni ← Reader.string
  let alpn ← Reader.string
  let certificates ← Reader.string
  let allowInsecure ← Reader.bool
  let utlsFingerprint ← Reader.string
  let realityPublicKey ← Reader.string
  let realityShortId ← Reader.string
  let ech ← Reader.bool
  let echConfig ← Reader.string
  return { password, sni, alpn, certificates, allowInsecure, utlsFingerprint, realityPublicKey,
           realityShortId, ech, echConfig }

end Trojan

namespace Naive

/-- The bytes of Naive settings. -/
def write (n : Naive) : Bytes :=
  writeString n.proto ++ writeString n.username ++ writeString n.password ++ writeString n.sni ++
    writeString n.extraHeaders ++ writeInt32 n.insecureConcurrency

/-- Reads Naive settings. -/
def read : Reader Naive := do
  let proto ← Reader.string
  let username ← Reader.string
  let password ← Reader.string
  let sni ← Reader.string
  let extraHeaders ← Reader.string
  let insecureConcurrency ← Reader.int32
  return { proto, username, password, sni, extraHeaders, insecureConcurrency }

end Naive

namespace Hysteria

/-- The fields that every version has. -/
def writeBase (h : Hysteria) : Bytes :=
  writeInt32 h.protocolVersion ++ writeString h.serverPorts ++ writeString h.obfuscation ++
    writeCoded h.authType ++ writeString h.authPayload ++ writeCoded h.transport ++
    writeString h.sni ++ writeString h.alpn ++ writeString h.certificates ++
    writeBool h.allowInsecure ++ writeBool h.disableSni ++ writeInt32 h.streamReceiveWindow ++
    writeInt32 h.connectionReceiveWindow ++ writeBool h.disableMtuDiscovery ++
    writeInt32 h.uploadMbps ++ writeInt32 h.downloadMbps

/-- The fields that version 2 added. -/
def writeEch (h : Hysteria) : Bytes := writeBool h.ech ++ writeString h.echConfig

/-- The bytes of Hysteria settings. -/
def write (h : Hysteria) : Bytes := h.writeBase ++ writeInt64 h.hopInterval ++ h.writeEch

/-- Reads the fields that every version has. -/
def readBase : Reader Hysteria := do
  let protocolVersion ← Reader.int32
  let serverPorts ← Reader.string
  let obfuscation ← Reader.string
  let authType ← Reader.codedField "hysteria auth type"
  let authPayload ← Reader.string
  let transport ← Reader.codedField "hysteria protocol"
  let sni ← Reader.string
  let alpn ← Reader.string
  let certificates ← Reader.string
  let allowInsecure ← Reader.bool
  let disableSni ← Reader.bool
  let streamReceiveWindow ← Reader.int32
  let connectionReceiveWindow ← Reader.int32
  let disableMtuDiscovery ← Reader.bool
  let uploadMbps ← Reader.int32
  let downloadMbps ← Reader.int32
  return { protocolVersion, serverPorts, obfuscation, authType, authPayload, transport, sni, alpn,
           certificates, allowInsecure, disableSni, streamReceiveWindow, connectionReceiveWindow,
           disableMtuDiscovery, uploadMbps, downloadMbps }

/-- Reads the hop interval, if the version has it. -/
def readHopInterval (version : Int32) (h : Hysteria) : Reader Hysteria := do
  if 1 ≤ version then
    let hopInterval ← Reader.int64
    return { h with hopInterval }
  else return h

/-- Reads the encrypted client hello, if the version has it. -/
def readEch (version : Int32) (h : Hysteria) : Reader Hysteria := do
  if 2 ≤ version then
    let ech ← Reader.bool
    let echConfig ← Reader.string
    return { h with ech, echConfig }
  else return h

/-- Reads Hysteria settings of a version. -/
def read (version : Int32) : Reader Hysteria := do
  let h ← readBase
  let h ← h.readHopInterval version
  h.readEch version

end Hysteria

namespace RawConfig

/-- The bytes of a raw configuration. -/
def write (raw : RawConfig) : Bytes := writeCoded raw.scope ++ writeString raw.text

/-- Reads a raw configuration. -/
def read : Reader RawConfig := do
  let scope ← Reader.codedField "config kind"
  let text ← Reader.string
  return { scope, text }

end RawConfig

namespace Profile

/-- The version that a kind's payload is written with. -/
def Kind.payloadVersion : Kind → Int32
  | hysteria => 2
  | trojan | naive | direct | config => 0

/-- The bytes of the settings. -/
def Variant.write : Variant → Bytes
  | trojan t => t.write
  | naive n => n.write
  | hysteria h => h.write
  | direct => []
  | config raw => raw.write

/-- Reads settings of a kind in a payload of a version. -/
def Variant.read (version : Int32) : Kind → Reader Variant
  | .trojan => Variant.trojan <$> Trojan.read
  | .naive => Variant.naive <$> Naive.read
  | .hysteria => Variant.hysteria <$> Hysteria.read version
  | .direct => pure Variant.direct
  | .config => Variant.config <$> RawConfig.read

/-- A profile after its version. -/
def writeBody (p : Profile) : Bytes := p.endpoint.write ++ p.variant.write

/-- The payload of a profile. -/
def encode (p : Profile) : Bytes := writeInt32 p.kind.payloadVersion ++ p.writeBody

/-- Reads a payload of a kind. -/
def read (kind : Kind) : Reader Profile := do
  let version ← Reader.int32
  let endpoint ← Endpoint.read
  let variant ← Variant.read version kind
  return { endpoint, variant }

/-- The profile in a payload of the kind that has the tag. -/
def decode (tag : Int32) (bytes : Bytes) : Except PayloadError Profile :=
  match Kind.ofTag? tag with
  | none => .error (.unknownTag tag)
  | some kind =>
    if bytes.isEmpty then .error (.empty tag)
    else
      match (read kind).parse (.start bytes) with
      | .ok (p, _) => .ok p
      | .error e => .error (.read e)

end Profile

end ProxyChain
