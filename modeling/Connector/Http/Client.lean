import Connector.Http.Basic
import Connector.Http.Url
import Connector.Text.Blank
import Connector.Text.Case

/-!
# Requests that are never sent

Before anything goes over the network, a request and the proxy are looked at.

* `Http.Request.refusal?` — why a request is refused: its address first, then its method, then its
  headers and its scheme.
* `Proxy.isUsable` — whether requests can be routed through a proxy.
-/

namespace Connector

namespace Http

/-- **Characters of tokens**, of which methods and header names are made. -/
def isTokenChar (c : Char) : Bool :=
  (c.isAlphanum || "!#$%&'*+-.^_\x60|~".toList.contains c) && c.toNat < 0x80

/-- Whether a text is a token. -/
def isToken (s : String) : Bool := !s.isEmpty && s.toList.all isTokenChar

/-- Whether a text can be the value of a header: no control characters but tabs. -/
def isHeaderValue (s : String) : Bool :=
  s.toList.all fun c => c = '\t' || (c.toNat ≥ 0x20 && c.toNat ≠ 0x7F)

/-- **Why a request is refused** before it is sent. -/
def Request.refusal? (r : Request) : Option HttpError :=
  match Url.parse r.url with
  | .error e => some (.invalidUrl r.url e.message)
  | .ok url =>
    if !isToken (Text.upper r.method) then some (.invalidMethod r.method)
    else if !r.headers.all fun (name, value) => isToken name && isHeaderValue value then
      some (.transport "builder error")
    else if url.scheme ≠ "http" ∧ url.scheme ≠ "https" then
      some (.transport ("builder error for url (" ++ r.url ++ ")"))
    else none

end Http

/-- **A proxy** that requests are routed through. -/
structure Proxy where
  scheme : String
  host : String
  port : Nat
  username : Option String
  password : Option String
  /-- Names are resolved by the proxy. -/
  resolvesRemotely : Bool

namespace Proxy

/-- The scheme of the proxy's address, which says who resolves names. -/
def addressScheme (p : Proxy) : String :=
  if p.resolvesRemotely then
    if p.scheme = "socks5" then "socks5h"
    else if p.scheme = "socks4" then "socks4a"
    else p.scheme
  else p.scheme

/-- The address of a proxy. -/
def address (p : Proxy) : String :=
  p.addressScheme ++ "://" ++ p.host ++ ":" ++ toString p.port

/-- Whether a text is an address with a host. -/
def isAddress (s : String) : Except UrlError Bool := (Url.parse s).map (·.hasHost)

/-- **Whether a proxy can be used**: its address is one, or becomes one with the scheme `http` when
all it lacks is a scheme. -/
def isUsable (p : Proxy) : Bool :=
  let again := (isAddress ("http://" ++ p.address)).toOption.getD false
  match isAddress p.address with
  | .ok true => true
  | .ok false => again
  | .error .noScheme => again
  | .error _ => false

end Proxy

end Connector
