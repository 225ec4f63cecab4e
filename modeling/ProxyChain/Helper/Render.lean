import ProxyChain.Helper.Naive

/-!
# Rendering for helpers

The configuration of a helper for a profile, with the files that it names. Rendering writes nothing;
whoever runs the helper writes the files and deletes them afterwards.
-/

namespace ProxyChain.Helper

/-- What the profile's helper needs to run it, if it has one. Under a tunnel the helper is told how to
protect its connections; `name` tells its files from all others. -/
def render (p : Profile) (ports : Ports) (underTunnel : Bool) (s : Settings) (name : String) :
    Option Rendered :=
  (of? p).bind fun helper =>
    match p.variant with
    | .hysteria h =>
      let file := h.certificateFile? s name
      let around : Hysteria.Surroundings :=
        { ports
          certificateFile := file.map (·.path.display)
          protectPath := if underTunnel then s.protectPath else none
          settings := s }
      some { helper, config := (h.config p around).pretty, files := file.toList }
    | .naive n => some { helper, config := (n.config p.endpoint ports).pretty, files := [] }
    | .trojan _ | .direct | .config _ => none

end ProxyChain.Helper
