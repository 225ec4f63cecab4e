import ProxyChain.Wire.Code

/-!
# Multiplexing

Several connections may share one to the server. A profile says whether they do, by which protocol,
and which one of three limits applies.
-/

namespace ProxyChain

/-- The protocol that connections are multiplexed by. -/
inductive Multiplex.Protocol where
  | h2mux
  | smux
  | yamux
  deriving DecidableEq, Repr

/-- What the number of a multiplex setting limits. -/
inductive Multiplex.Limit where
  | maxConnections
  | minStreams
  | maxStreams
  deriving DecidableEq, Repr

/-- How a profile multiplexes. -/
structure Multiplex where
  enabled : Bool := false
  padding : Bool := false
  protocol : Multiplex.Protocol := .h2mux
  limit : Multiplex.Limit := .maxConnections
  number : Int32 := 8
  /-- Whether the bandwidth is fixed instead of negotiated. -/
  brutal : Bool := false
  deriving DecidableEq, Repr

namespace Multiplex

instance : Wire.Coded Protocol where
  values := [.h2mux, .smux, .yamux]
  code
    | .h2mux => 0
    | .smux => 1
    | .yamux => 2

instance : Wire.Coded Limit where
  values := [.maxConnections, .minStreams, .maxStreams]
  code
    | .maxConnections => 0
    | .minStreams => 1
    | .maxStreams => 2

/-- The core's name of a protocol. -/
def Protocol.name : Protocol → String
  | h2mux => "h2mux"
  | smux => "smux"
  | yamux => "yamux"

/-- The protocol of a name; an unknown one is h2mux. -/
def Protocol.ofName (name : String) : Protocol :=
  if name = "smux" then smux else if name = "yamux" then yamux else h2mux

/-- The core's key of a limit. -/
def Limit.key : Limit → String
  | maxConnections => "max_connections"
  | minStreams => "min_streams"
  | maxStreams => "max_streams"

/-- A protocol is found by its name. -/
@[simp] theorem Protocol.ofName_name (p : Protocol) : ofName p.name = p := by cases p <;> rfl

end Multiplex

end ProxyChain
