import SocksGateway.Config.Validation
import SocksGateway.Gateway.Basic

namespace SocksGateway

def Config.options (c : Config) : GatewayOptions where
  level := c.logging.level
  logLimit := c.logging.limit.toNat
  logInterval := c.logging.intervalDuration
  bypassLan := c.bypassLan

namespace Engine

def unlessFailed {α : Type} (r : Except GatewayError α × Engine) :
    Except GatewayError (α × Engine) :=
  match r with
  | (.ok a, e) => .ok (a, e)
  | (.error error, _) => .error error

def applyChange (e : Engine) (c : RuleChange) : Except GatewayError Engine :=
  (·.2) <$> unlessFailed (e.change c)

def applyProxy (e : Engine) (s : ProxySettings) : Except GatewayError Engine := do
  let (handle, e) ← unlessFailed (e.register s.endpoint s.protocols s.credentials s.start)
  (s.processes.map (RuleChange.associate · handle)).foldlM applyChange e

def applyRule (e : Engine) (s : RuleSettings) : Except GatewayError Engine :=
  (s.allowed.map (RuleChange.allow s.process) ++ s.denied.map (RuleChange.deny s.process)).foldlM
    applyChange e

def applyConfig (e : Engine) (c : Config) : Except GatewayError Engine := do
  let e ← c.proxies.foldlM applyProxy e
  let e ← (c.excludes.map RuleChange.exclude).foldlM applyChange e
  c.rules.foldlM applyRule e

end Engine

namespace Gateway

def mirrored (g : Gateway) : Option String → Except GatewayError Gateway
  | some path => g.mirrorTo path
  | none => .ok g

def ofConfig (c : Config) (relay : Relay) (files : FileTree) : Except GatewayError Gateway :=
  match c.validate with
  | .error fault => .error (.invalidConfig fault)
  | .ok () => do
    let g ← (create c.options relay files).mirrored c.logging.mirror
    return { g with toEngine := ← g.toEngine.applyConfig c }

end Gateway
end SocksGateway
