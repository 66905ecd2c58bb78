/-
# Connection options

What a session presents to the hub when it connects: its identity as client identifier, a user name
made of host, identity and interface version, and the token as password.  The keep-alive interval is
at least five seconds.  Over TLS a certificate is required; reading it belongs to the network, so the
options only name it.
-/

import DeviceGateway.Identity
import DeviceGateway.Settings.Hub

namespace DeviceGateway.Uplink

/-- What a session presents to the hub. -/
structure Options where
  clientId : String
  host : String
  port : Nat
  userName : String
  password : String
  /-- The interval of keep-alive messages in seconds. -/
  keepAlive : Nat
  cleanSession : Bool
  /-- The path of the certificate, when the connection is over TLS. -/
  certificate : Option String
deriving DecidableEq, Repr

namespace Options

/-- The shortest interval of keep-alive messages in seconds. -/
def shortestKeepAlive : Nat := 5

/-- The user name of an identity. -/
def userNameOf (settings : Settings.Hub) (identity : Identity) : String :=
  settings.host ++ "/" ++ identity.toText ++ "/?api-version=" ++ settings.apiVersion

/-- The fault of a connection over TLS without a certificate. -/
def certificateMissing : Fault := .invalidArgument "upstream.ca_path" "required when tls is enabled"

/-- The fault of a certificate that cannot be read. -/
def certificateUnreadable (path : String) : Fault :=
  .invalidArgument "upstream.ca_path" ("failed to read " ++ path ++ ": ")

/-- The options of an identity; `readable` says which certificates can be read. -/
def of (settings : Settings.Hub) (identity : Identity) (token : Option String)
    (readable : String → Bool) : Answer Options :=
  let options (certificate : Option String) : Options :=
    { clientId := identity.toText
      host := settings.host
      port := settings.port
      userName := userNameOf settings identity
      password := token.getD ""
      keepAlive := max settings.keepAlive shortestKeepAlive
      cleanSession := settings.cleanSession
      certificate }
  if settings.tls then
    match settings.caPath with
    | none => .error certificateMissing
    | some path =>
      if readable path then .ok (options (some path)) else .error (certificateUnreadable path)
  else .ok (options none)

end Options

end DeviceGateway.Uplink
