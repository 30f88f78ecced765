import SocksGateway.Engine.Basic
import SocksGateway.Net.NetworkText

namespace SocksGateway.Engine

def adopt (e : Engine) (policy : PolicyTable) (text : String) : Engine :=
  (({ e with policy } : Engine).diagnose .debug text).message .info text

def associate (e : Engine) (process : String) (h : Handle) : Except GatewayError Unit × Engine :=
  if e.registry.contains h then
    (.ok (), e.adopt (e.policy.associate process h)
      ("Associated process " ++ process ++ " with " ++ h.toText))
  else (.error (.unknownProxy h), e)

def exclude (e : Engine) (process : String) : Engine :=
  e.adopt (e.policy.exclude process) ("Excluded process " ++ process)

def withRange (e : Engine) (range : String)
    (change : Network → Except GatewayError Unit × Engine) :
    Except GatewayError Unit × Engine :=
  match Network.ofRangeText? range with
  | none => (.error (.invalidRange range), e)
  | some n => change n

def rangeText (verb : String) (n : Network) (process : String) : String :=
  verb ++ " destination " ++ n.toText ++ " for process " ++ process

def adoptRemoval (e : Engine) (policy : Option PolicyTable) (verb : String) (n : Network)
    (process : String) : Except GatewayError Unit × Engine :=
  match policy with
  | some policy => (.ok (), e.adopt policy (rangeText verb n process))
  | none => (.error (.rangeNotFound n.toText process), e)

def allowRange (e : Engine) (process range : String) : Except GatewayError Unit × Engine :=
  e.withRange range fun n =>
    (.ok (), e.adopt (e.policy.allow process n) (rangeText "Included" n process))

def dropAllowedRange (e : Engine) (process range : String) : Except GatewayError Unit × Engine :=
  e.withRange range fun n =>
    e.adoptRemoval (e.policy.dropAllowed? process n) "Removed included" n process

def denyRange (e : Engine) (process range : String) : Except GatewayError Unit × Engine :=
  e.withRange range fun n =>
    (.ok (), e.adopt (e.policy.deny process n) (rangeText "Excluded" n process))

def dropDeniedRange (e : Engine) (process range : String) : Except GatewayError Unit × Engine :=
  e.withRange range fun n =>
    e.adoptRemoval (e.policy.dropDenied? process n) "Removed excluded" n process

def setLanBypass (e : Engine) (enabled : Bool) : Engine :=
  ({ e with lan := ⟨enabled⟩ } : Engine).message .info
    ("LAN bypass " ++ if enabled then "enabled" else "disabled")

end SocksGateway.Engine

namespace SocksGateway

/-- A request to change the rule of one process. Handles and ranges may turn out not to exist. -/
inductive RuleChange
  | associate (process : String) (handle : Handle)
  | exclude (process : String)
  | allow (process range : String)
  | dropAllowed (process range : String)
  | deny (process range : String)
  | dropDenied (process range : String)
deriving DecidableEq, Inhabited

def Engine.change (e : Engine) : RuleChange → Except GatewayError Unit × Engine
  | .associate process handle => e.associate process handle
  | .exclude process => (.ok (), e.exclude process)
  | .allow process range => e.allowRange process range
  | .dropAllowed process range => e.dropAllowedRange process range
  | .deny process range => e.denyRange process range
  | .dropDenied process range => e.dropDeniedRange process range

end SocksGateway
