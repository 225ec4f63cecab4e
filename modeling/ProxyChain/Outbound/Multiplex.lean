import ProxyChain.Json.Loose
import ProxyChain.Profile.Multiplex
import ProxyChain.Settings.Basic

/-!
# Multiplexing in outbounds

An outbound multiplexes only if its `multiplex` member is an object that says `true` outright. Of
several limits given the last one counts, in a fixed order.
-/

namespace ProxyChain.Multiplex

/-- A 64-bit integer in 32 bits. One that does not fit becomes the greatest that does. -/
def capInt32 (n : Int64) : Int32 := (Text.fitInt32? n.toInt).getD Int32.maxValue

/-- The limit under a key takes effect if it is positive. -/
def withLimit (m : Members) (settings : Multiplex) (limit : Limit) : Multiplex :=
  let number := m.intAt limit.key
  if 0 < number then { settings with limit, number := capInt32 number } else settings

/-- The limits, the last one that is given counting. -/
def limitOrder : List Limit := [.maxConnections, .minStreams, .maxStreams]

/-- The settings in a `multiplex` object. -/
def ofMembers (m : Members) : Multiplex :=
  match m.get? "enabled" with
  | some (.bool true) =>
    let settings : Multiplex :=
      { enabled := true
        padding := m.flag "padding"
        protocol := Protocol.ofName (m.textAt "protocol")
        brutal := ((m.objectAt? "brutal").map fun b => b.flag "enabled").getD false }
    limitOrder.foldl (withLimit m) settings
  | _ => {}

/-- The members that say how many connections there are, or how fast the one connection is. -/
def limitFields (m : Multiplex) (s : Settings) : List (String × Json) :=
  if m.brutal then
    [(Limit.maxConnections.key, .int 1),
     ("brutal", .ofFields
       [("enabled", .bool true), ("up_mbps", .int (-1)), ("down_mbps", .int s.downloadMbps.toInt)])]
  else [(m.limit.key, .int m.number.toInt)]

/-- The `multiplex` object for the core, if there is multiplexing. -/
def toJson? (m : Multiplex) (s : Settings) : Option Json :=
  if m.enabled then
    some (.ofFields ([("enabled", .bool true), ("padding", .bool m.padding),
      ("protocol", .string m.protocol.name)] ++ m.limitFields s))
  else none

end ProxyChain.Multiplex
