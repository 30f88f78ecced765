import SocksGateway.Net.EndpointText
import SocksGateway.Proxy.Credentials
import SocksGateway.Proxy.Protocol

namespace SocksGateway

structure Handle where
  number : Nat
deriving DecidableEq, Inhabited

namespace Handle

def toText (h : Handle) : String := "proxy#" ++ toString h.number

instance : ToString Handle := ⟨toText⟩

def description (h : Handle) : String := "ProxyHandle(" ++ toString h.number ++ ")"

end Handle

inductive ProxyState
  | stopped
  | running
deriving DecidableEq, Inhabited

namespace ProxyState

def name : ProxyState → String
  | stopped => "stopped"
  | running => "running"

def label : ProxyState → String
  | stopped => "Stopped"
  | running => "Running"

end ProxyState

/-- A proxy that starts by itself does so whenever its gateway starts. -/
structure Proxy where
  handle : Handle
  endpoint : Endpoint
  credentials : Option Credentials := none
  protocols : ProtocolMask := .both
  state : ProxyState := .stopped
  autostart : Bool := false
deriving DecidableEq, Inhabited

namespace Proxy

def isRunning (p : Proxy) : Bool := p.state == .running

def isPending (p : Proxy) : Bool := p.autostart && !p.isRunning

def description (p : Proxy) : String :=
  Description.record "Proxy"
    [("handle", p.handle.description), ("endpoint", p.endpoint.toText),
     ("credentials", Credentials.optionDescription p.credentials), ("protocols", p.protocols.label),
     ("state", p.state.label), ("autostart", Description.bool p.autostart)]

end Proxy
end SocksGateway
