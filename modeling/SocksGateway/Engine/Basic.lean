import SocksGateway.Error
import SocksGateway.Log.Pipeline
import SocksGateway.Net.LocalNetworks
import SocksGateway.Policy.PolicyTable
import SocksGateway.Proxy.Registry
import SocksGateway.Proxy.Relay

namespace SocksGateway

structure Engine where
  relay : Relay := .accepting
  calls : Array RelayCall := #[]
  log : Pipeline := {}
  registry : Registry := .empty
  policy : PolicyTable := .empty
  lan : LocalFilter := {}

namespace Engine

instance : Inhabited Engine := ⟨{}⟩

def diagnose (e : Engine) (severity : Severity) (text : String) : Engine :=
  { e with log := e.log.diagnose severity text }

def append (e : Engine) (level : Level) (event : EventKind) (payload : Payload) : Engine :=
  { e with log := (e.log.append level event payload).2 }

def message (e : Engine) (level : Level) (text : String) : Engine :=
  e.append level .message (.description text)

def call (e : Engine) (c : RelayCall) : Engine := { e with calls := e.calls.push c }

end Engine
end SocksGateway
