import ProxyChain.Link.Basic
import ProxyChain.Outbound.Document
import ProxyChain.Record.Basic

/-!
# Exchange

Records out of links and outbounds that others made, and outbounds to give away.
-/

namespace ProxyChain

/-- The version of the library. -/
def version : String := "0.1.0"

/-- Why a text gives no record. -/
inductive ImportError where
  | notJson (error : TextError)
  | notObject
  /-- The outbound is of no known type. -/
  | unknownType
  deriving DecidableEq, Repr

/-- What went wrong, in words. -/
def ImportError.message : ImportError → String
  | notJson e => e.message
  | notObject => "outbound must be a JSON object"
  | unknownType => "unsupported outbound type"

namespace Record

/-- A record of the profile in a link. -/
def ofLink (uuid link : String) : Except LinkError Record := (Link.decode link).map (fresh uuid)

/-- A record of the profile that the text of an outbound gives. -/
def ofOutboundText (uuid text : String) : Except ImportError Record :=
  match Json.parse text with
  | .error e => .error (.notJson e)
  | .ok document =>
    match document.members? with
    | none => .error .notObject
    | some members =>
      match Profile.ofOutbound? members with
      | none => .error .unknownType
      | some p => .ok (fresh uuid p)

end Record

/-- The text of a profile's outbound. -/
def Profile.outboundText (p : Profile) (s : Settings) : Except OutboundError String :=
  (p.toOutbound s).map Json.pretty

end ProxyChain
