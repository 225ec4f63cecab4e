import ProxyChain.Profile.Payload
import ProxyChain.Record.Basic

/-!
# Records as bytes

A record starts with a reserved version, always written as zero and never looked at, followed by the
bookkeeping, the profile's payload as a blob, and whether the record is dirty. Bytes after the
payload inside the blob and after the record are ignored.
-/

namespace ProxyChain.Record

open Wire

/-- The bookkeeping in front of the payload. -/
structure Header where
  id : Int64
  groupId : Int64
  tag : Int32
  userOrder : Int64
  tx : Int64
  rx : Int64
  status : Status
  ping : Int32
  uuid : String
  error : Option String
  deriving DecidableEq, Repr

/-- The bookkeeping of a record. -/
def header (r : Record) : Header where
  id := r.id
  groupId := r.groupId
  tag := r.tag
  userOrder := r.userOrder
  tx := r.tx
  rx := r.rx
  status := r.status
  ping := r.ping
  uuid := r.uuid
  error := r.error

namespace Header

/-- The bytes of the bookkeeping. -/
def write (h : Header) : Bytes :=
  writeInt64 h.id ++ writeInt64 h.groupId ++ writeInt32 h.tag ++ writeInt64 h.userOrder ++
    writeInt64 h.tx ++ writeInt64 h.rx ++ writeCoded h.status ++ writeInt32 h.ping ++
    writeString h.uuid ++ writeString? h.error

/-- Reads the bookkeeping. -/
def read : Reader Header := do
  let id ← Reader.int64
  let groupId ← Reader.int64
  let tag ← Reader.int32
  let userOrder ← Reader.int64
  let tx ← Reader.int64
  let rx ← Reader.int64
  let status ← Reader.codedField "status"
  let ping ← Reader.int32
  let uuid ← Reader.string
  let error ← Reader.string?
  return { id, groupId, tag, userOrder, tx, rx, status, ping, uuid, error }

/-- The record with this bookkeeping. -/
def toRecord (h : Header) (profile : Profile) (dirty : Bool) : Record where
  id := h.id
  groupId := h.groupId
  userOrder := h.userOrder
  tx := h.tx
  rx := h.rx
  status := h.status
  ping := h.ping
  uuid := h.uuid
  error := h.error
  profile := profile
  dirty := dirty

end Header

/-- The reserved version. -/
def version : Int32 := 0

/-- The bytes of a record. -/
def encode (r : Record) : Bytes :=
  writeInt32 version ++ r.header.write ++ writeBlob r.profile.encode ++ writeBool r.dirty

/-- Reads what comes up to the end of the payload. -/
def readHeader : Reader (Header × Bytes) := do
  discard Reader.int32
  let header ← Header.read
  let payload ← Reader.blob
  return (header, payload)

/-- The record that bytes hold. -/
def decode (bytes : Bytes) : Except PayloadError Record :=
  match readHeader.parse (.start bytes) with
  | .error e => .error (.read e)
  | .ok ((header, payload), c) =>
    match Profile.decode header.tag payload with
    | .error e => .error e
    | .ok profile =>
      match Reader.bool.parse c with
      | .error e => .error (.read e)
      | .ok (dirty, _) => .ok (header.toRecord profile dirty)

end ProxyChain.Record
