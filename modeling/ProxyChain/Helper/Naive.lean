import ProxyChain.Helper.Hysteria

/-!
# Configurations of Naive helpers

The proxy is a URL with the credentials and the name of the server. When that name is not where to
connect, a rule maps it to the server's address or to this machine.
-/

namespace ProxyChain.Naive

/-- The credentials in front of the server's name. -/
def credentials (n : Naive) : String :=
  if n.password.isEmpty then
    if n.username.isEmpty then "" else n.username ++ "@"
  else s!"{n.username}:{n.password}@"

/-- The URL of the proxy. -/
def proxyUrl (e : Endpoint) (n : Naive) (relay : Option UInt16) : String :=
  s!"{n.proto}://{n.credentials}{hostPort (e.serverName n.sni) (relay.getD e.port)}"

/-- Where to connect. -/
def target (e : Endpoint) (relay : Option UInt16) : String :=
  if relay.isSome then localhost else e.address

/-- The rule that maps the server's name to where to connect, unless they are the same. -/
def resolverRule? (e : Endpoint) (n : Naive) (relay : Option UInt16) : Option String :=
  let host := e.serverName n.sni
  if host = target e relay then none else some s!"MAP {host} {target e relay}"

/-- The headers to add, each ended by carriage return and line feed but the last. -/
def headersText? (n : Naive) : Option String :=
  (Text.filledLines? n.extraHeaders).map fun headers => "\r\n".intercalate headers

/-- The configuration of a profile. -/
def config (e : Endpoint) (n : Naive) (ports : Helper.Ports) : Json :=
  .object (Members.ofFields
    [("listen", some (.string s!"socks://{localAddress ports.listen}")),
     ("proxy", some (.string (proxyUrl e n ports.relay))),
     ("host-resolver-rules", (resolverRule? e n ports.relay).map .string),
     ("extra-headers", n.headersText?.map .string),
     ("insecure-concurrency", Hysteria.positive n.insecureConcurrency)])

end ProxyChain.Naive
