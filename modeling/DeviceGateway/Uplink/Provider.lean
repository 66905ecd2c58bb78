/-
# The provider of clients

The provider knows the settings of the connection and the tokens of the identities, and creates the
client of an identity with the token that is known at that time.
-/

import DeviceGateway.Uplink.Basic
import DeviceGateway.Uplink.Options

namespace DeviceGateway.Uplink

/-- A client of the hub for an identity, with what it presents to the hub; `readable` says which
certificates can be read. -/
def create (settings : Settings.Hub) (readable : String → Bool) (token : Option String)
    (identity : Identity) : Answer (Options × Uplink) :=
  match Options.of settings identity token readable with
  | .error fault => .error fault
  | .ok options => (new identity settings).map fun uplink => (options, uplink)

/-- A provider of clients. -/
structure Provider where
  settings : Settings.Hub
  /-- The tokens of identities. -/
  credentials : List (Identity × String) := []
deriving DecidableEq

namespace Provider

/-- The token of an identity. -/
def token? (provider : Provider) (identity : Identity) : Option String :=
  (provider.credentials.find? fun entry => entry.1 = identity).map Prod.snd

/-- Give an identity a token in the place of the one it had. -/
def setCredentials (provider : Provider) (identity : Identity) (token : String) : Provider :=
  { provider with
    credentials := (identity, token) ::
      provider.credentials.filter fun entry => entry.1 ≠ identity }

/-- Create the client of an identity. -/
def create (provider : Provider) (readable : String → Bool) (identity : Identity) :
    Answer (Options × Uplink) :=
  Uplink.create provider.settings readable (provider.token? identity) identity

@[simp]
theorem token?_setCredentials (provider : Provider) (identity : Identity) (token : String) :
    (provider.setCredentials identity token).token? identity = some token := by
  simp [token?, setCredentials]

theorem token?_setCredentials_of_ne (provider : Provider) {identity other : Identity}
    (token : String) (apart : other ≠ identity) :
    (provider.setCredentials identity token).token? other = provider.token? other := by
  unfold token? setCredentials
  rw [List.find?_cons_of_neg (by simpa using Ne.symm apart)]
  congr 1
  rw [List.find?_filter]
  congr 1
  funext entry
  by_cases same : entry.1 = other
  · simp [same, apart]
  · simp [same]

end Provider

end DeviceGateway.Uplink
