import SocksGateway.Engine.Basic

namespace SocksGateway

structure Route where
  handle : Handle
  endpoint : Endpoint
  credentials : Option Credentials
deriving DecidableEq, Inhabited

inductive BlockReason
  | protocolMismatch
  | proxyUnavailable
deriving DecidableEq, Inhabited

inductive Decision
  | bypass
  | proxy (route : Route)
  | block (reason : BlockReason)
deriving DecidableEq, Inhabited

namespace Decision

def isBypass : Decision → Bool
  | bypass => true
  | _ => false

def isBlocked : Decision → Bool
  | block _ => true
  | _ => false

def handle? : Decision → Option Handle
  | proxy route => some route.handle
  | _ => none

def toText : Decision → String
  | bypass => "bypass"
  | proxy route => "proxy via " ++ route.handle.toText ++ " (" ++ route.endpoint.toText ++ ")"
  | block .protocolMismatch => "block (protocol not supported by proxy)"
  | block .proxyUnavailable => "block (proxy unavailable)"

instance : ToString Decision := ⟨toText⟩

end Decision

def Proxy.route (p : Proxy) : Route := ⟨p.handle, p.endpoint, p.credentials⟩

def Registry.offer (r : Registry) (h : Handle) (protocol : Protocol) : Decision :=
  match r.get? h with
  | none => .block .proxyUnavailable
  | some p => if p.protocols.supports protocol then .proxy p.route else .block .protocolMismatch

def Rule.decide (r : Rule) (registry : Registry) (a : Address) (protocol : Protocol) : Decision :=
  if r.admits a then
    match r.proxy with
    | some h => registry.offer h protocol
    | none => .bypass
  else .bypass

namespace Engine

/-- Local destinations and processes without a rule connect directly. -/
def evaluate (e : Engine) (process : String) (a : Address) (protocol : Protocol) : Decision :=
  if e.lan.bypasses a then .bypass
  else match e.policy.get? process with
    | some rule => rule.decide e.registry a protocol
    | none => .bypass

def decisionText (process : String) (destination : Endpoint) (protocol : Protocol) (d : Decision) :
    String :=
  process ++ " " ++ protocol.name ++ " " ++ destination.toText ++ " -> " ++ d.toText

/-- An entry on a decision, which is not made up at all where the threshold would not let it
pass. -/
def note (e : Engine) (text : String) : Engine :=
  { e with log := if e.log.level.allows .debug then (e.log.message .debug text).2 else e.log }

/-- The guard in front is the one that the log has itself. -/
theorem note_eq (e : Engine) (text : String) : e.note text = e.message .debug text := by
  cases h : e.log.level.allows .debug with
  | true => simp [note, message, append, Pipeline.message, h]
  | false => simp [note, message, append, Pipeline.append, h]

def decide (e : Engine) (process : String) (destination : Endpoint) (protocol : Protocol) :
    Decision × Engine :=
  let d := e.evaluate process destination.address.canonical protocol
  let text := decisionText process destination protocol d
  (d, (e.diagnose .debug text).note text)

end Engine
end SocksGateway
