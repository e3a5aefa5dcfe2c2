import TokenLifecycle.Config.Layers
import TokenLifecycle.Keys.Loading
import TokenLifecycle.Redis.Connection
import TokenLifecycle.Redis.SessionStore
import TokenLifecycle.Service.Operations

/-!
# Startup

The steps from an environment to a running service: settings, keys, the connection to the cache, a
greeting, and the service itself. The first step that fails ends the startup.
-/

namespace TokenLifecycle

/-- Why a startup fails. -/
inductive StartupFault
  /-- The configuration cannot be loaded. -/
  | unloaded (fault : Config.LoadFault)
  | refused (failure : Failure)
  | cache (fault : Redis.Fault)

/-- What a startup comes to: the settings, the service, and the client of the cache with the state
of its connection. -/
structure Started (σ : Type) where
  config : Config.App
  service : Service
  client : Redis.Client σ
  state : σ

namespace Startup

variable {σ : Type}

/-- The codec for loaded keys. -/
def codec (keys : SigningKeys) (jwt : Config.Jwt) : Codec :=
  ⟨keys.pair, jwt.issuer, jwt.leeway⟩

/-- The service on top of a healthy connection. -/
def service (config : Config.App) (keys : SigningKeys) : Outcome Service :=
  (Service.Settings.ofConfig config.jwt config.session).bind
    (Service.ofSettings (codec keys config.jwt))

/-- Goes on with a connection: greets the server and sets up the service. -/
def withClient (config : Config.App) (keys : SigningKeys) (client : Redis.Client σ) (s : σ) :
    Except StartupFault (Started σ) :=
  let greeting := client.isHealthy s
  match greeting.outcome with
  | .error f => .error (.cache f)
  | .ok false => .error (.cache .unhealthy)
  | .ok true =>
    match service config keys with
    | .error f => .error (.refused f)
    | .ok service => .ok ⟨config, service, client, greeting.state⟩

/-- Starts up. `dial` gives the outcome of each attempt to connect to an address: a connection and
its state. -/
def run (vars : Config.Variables) (files : Files) (entropy : Entropy)
    (dial : Redis.Address → Nat → Except Redis.Fault ((List String → σ → Redis.Answer × σ) × σ)) :
    Except StartupFault (Started σ) :=
  match Config.load vars files with
  | .error f => .error (.unloaded f)
  | .ok config =>
    match (SigningKeys.ofConfig files config.jwt entropy).result with
    | .error e => .error (.refused (.rejected e))
    | .ok keys =>
      match (Redis.Connected.ofSettings config.cache dial).outcome with
      | .error f => .error (.cache f)
      | .ok (exchange, s) => withClient config keys ⟨config.cache, exchange⟩ s

end Startup

end TokenLifecycle
