import ProxyChain.Profile.Display

/-!
# Records

A record is a profile with the bookkeeping that a store keeps about it. Its type is that of the
profile it holds.
-/

namespace ProxyChain

/-- How the last health check went. -/
inductive Record.Status where
  | initial
  | available
  /-- It failed for no clear reason. -/
  | unreachable
  /-- It has an obvious error. -/
  | unavailable
  deriving DecidableEq, Repr

/-- A profile in a store. -/
structure Record where
  id : Int64 := 0
  groupId : Int64 := 0
  userOrder : Int64 := 0
  /-- Bytes sent. -/
  tx : Int64 := 0
  /-- Bytes received. -/
  rx : Int64 := 0
  status : Record.Status := .initial
  /-- The last measured latency in milliseconds. -/
  ping : Int32 := 0
  uuid : String
  error : Option String := none
  profile : Profile
  /-- Whether it has edits that are not saved. -/
  dirty : Bool := false
  deriving DecidableEq, Repr

instance : Wire.Coded Record.Status where
  values := [.initial, .available, .unreachable, .unavailable]
  code
    | .initial => 0
    | .available => 1
    | .unreachable => 2
    | .unavailable => 3

namespace Record

/-- The record of a profile that was not stored before. -/
def fresh (uuid : String) (profile : Profile) : Record := { uuid, profile }

/-- The tag of the profile's kind. -/
def tag (r : Record) : Int32 := r.profile.tag

/-- A profile of another kind than the record's was to take its place. -/
structure TypeMismatch where
  /-- The tag of the record. -/
  held : Int32
  /-- The tag of the profile offered. -/
  offered : Int32
  deriving DecidableEq, Repr

/-- What went wrong, in words. -/
def TypeMismatch.message (e : TypeMismatch) : String :=
  s!"profile type mismatch: record holds type {Text.showInt e.held.toInt}, got type {Text.showInt e.offered.toInt}"

/-- Replaces the profile and with it the type. -/
def putProfile (r : Record) (profile : Profile) : Record := { r with profile }

/-- Replaces the profile by one of the same kind. -/
def setProfile (r : Record) (profile : Profile) : Except TypeMismatch Record :=
  if profile.tag = r.tag then .ok { r with profile } else .error ⟨r.tag, profile.tag⟩

/-- Names the profile. -/
def rename (r : Record) (name : String) : Record :=
  { r with profile := { r.profile with endpoint := { r.profile.endpoint with name } } }

end Record

end ProxyChain
