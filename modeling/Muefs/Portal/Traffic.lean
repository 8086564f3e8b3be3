import Muefs.Formats.Addresses
import Muefs.Model.Values

/-!
# Whom a request comes from

* `commaParts` : the entries of a list that commas separate;
* `ProxySettings` : the trusted proxies, as the settings accept them; `isTrustedProxy`;
* `hops`, `lastHop`, `clientIp` : the address that rate limits and the audit log go by.
-/

namespace Muefs
open Formats

/-- The parts of a list that commas separate, without blanks. -/
def commaParts (text : List Char) : List (List Char) := ((text.splitOn ',').map stripSpace).filter (· ≠ [])

/-- `settings.trusted_proxy_ips`; `_check_proxy_networks` refuses a list with an entry that is no network. -/
structure ProxySettings where
  trustedProxyIps : String
  parsed : ∀ entry ∈ commaParts trustedProxyIps.toList, (ipNetwork (String.ofList entry)).isSome = true

/-- `_networks` -/
def ProxySettings.networks (settings : ProxySettings) : List IpNetwork :=
  (commaParts settings.trustedProxyIps.toList).filterMap fun entry => ipNetwork (String.ofList entry)

/-- `_is_trusted_proxy` -/
def ProxySettings.isTrustedProxy (settings : ProxySettings) (address : String) : Bool :=
  match ipAddress address with
  | some ip => settings.networks.any (·.contains ip)
  | none => false

/-- The peer of the connection, if it is known, and the lines of `x-forwarded-for`. -/
structure Arrived where
  client : Option String
  forwardedFor : List String
  deriving DecidableEq, Repr

/-- The entries of all lines. -/
def hops (lines : List String) : List String := (commaParts (",".intercalate lines).toList).map String.ofList

/-- From the entries, last first: the first that is not trusted, and else the last one looked at. -/
def lastHop (trusted : String → Bool) : String → List String → String
  | address, [] => address
  | _, hop :: rest => if trusted hop then lastHop trusted hop rest else hop

/-- `client_ip` -/
def clientIp (settings : ProxySettings) (request : Arrived) : Option String :=
  match request.client with
  | none => none
  | some address =>
    if settings.isTrustedProxy address then
      some (lastHop settings.isTrustedProxy address (hops request.forwardedFor).reverse)
    else some address

end Muefs
