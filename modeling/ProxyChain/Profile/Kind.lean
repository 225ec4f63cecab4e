import ProxyChain.Profile.Basic

/-!
# Kinds of profile

Each of the five kinds has a name, used in links, and a tag, used in stored records.
-/

namespace ProxyChain.Profile

/-- A kind of profile. -/
inductive Kind where
  | trojan
  | naive
  | hysteria
  | direct
  | config
  deriving DecidableEq, Repr

namespace Kind

/-- Every kind. -/
def all : List Kind := [trojan, naive, hysteria, direct, config]

/-- The name of a kind. -/
def name : Kind → String
  | trojan => "trojan"
  | naive => "naive"
  | hysteria => "hysteria"
  | direct => "direct"
  | config => "config"

/-- The tag of a kind. -/
def tag : Kind → Int32
  | trojan => 6
  | naive => 9
  | hysteria => 15
  | direct => 23
  | config => 998

/-- The kind of a name. -/
def ofName? (name : String) : Option Kind := all.find? fun k => k.name == name

/-- The kind of a tag. -/
def ofTag? (tag : Int32) : Option Kind := all.find? fun k => k.tag == tag

/-- A kind is found by its name. -/
@[simp] theorem ofName?_name (k : Kind) : ofName? k.name = some k := by cases k <;> decide

/-- A kind is found by its tag. -/
@[simp] theorem ofTag?_tag (k : Kind) : ofTag? k.tag = some k := by cases k <;> decide

end Kind

/-- The kind that settings belong to. -/
def Variant.kind : Variant → Kind
  | trojan _ => .trojan
  | naive _ => .naive
  | hysteria _ => .hysteria
  | direct => .direct
  | config _ => .config

/-- The kind of a profile. -/
def kind (p : Profile) : Kind := p.variant.kind

/-- The tag of a profile's kind. -/
def tag (p : Profile) : Int32 := p.kind.tag

/-- Whether the profile is a complete core configuration. -/
def isFullConfig (p : Profile) : Bool :=
  match p.variant with
  | .config raw => raw.scope == .full
  | _ => false

/-- Whether the core cannot run the profile, so that a helper process has to. The core speaks
Hysteria over plain UDP only and does not speak Naive. -/
def needsHelper (p : Profile) : Bool :=
  match p.variant with
  | .naive _ => true
  | .hysteria h => h.transport != .udp
  | .trojan _ | .direct | .config _ => false

/-- The core's type of the profile's outbound, if the core has one. -/
def outboundType? (p : Profile) : Option String :=
  match p.variant with
  | .trojan _ => some "trojan"
  | .hysteria h => some h.outboundType
  | .direct => some "direct"
  | .naive _ | .config _ => none

end ProxyChain.Profile
