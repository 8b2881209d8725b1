import StreamStore.Client
import StreamStore.Gateway
import StreamStore.Settings

/-!
# From settings to a client

Connecting sends nothing.  The settings are checked, an endpoint is chosen once
and for all, and its text becomes the address of a gateway.  The last step can
still fail: `Settings.check` accepts a host that no URL can have.
-/

namespace StreamStore

/-- The gateway that settings lead to. -/
def Settings.gateway (s : Settings) (draw : Nat) : Except SettingsFault Gateway := do
  s.check
  let e ← s.selection.choose draw s.endpoints
  Gateway.ofAddress e.url

variable {m : Type → Type} [Monad m]

/-- A client over a gateway. -/
def Client.ofGateway (g : Gateway) (splitIdentity : Bool) (send : Http.Request → m Http.Reply)
    (clock : m Nat) : Client m :=
  ⟨g.backend send, splitIdentity, clock⟩

/-- The client that settings lead to. -/
def Settings.connect (s : Settings) (draw : Nat) (send : Http.Request → m Http.Reply)
    (clock : m Nat) : Except SettingsFault (Client m) := do
  let g ← s.gateway draw
  return .ofGateway g s.splitIdentity send clock

end StreamStore
