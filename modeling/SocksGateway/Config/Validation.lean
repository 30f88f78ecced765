import SocksGateway.Config.Basic
import SocksGateway.Error
import SocksGateway.Net.NetworkText
import SocksGateway.Policy.ProcessName

namespace SocksGateway.Config

def limitFault (c : Config) : Option ConfigFault :=
  if c.logging.limit = 0 then some .zeroLogLimit else none

def endpointFault (c : Config) : Option ConfigFault :=
  (c.proxies.find? fun p => (Endpoint.ofProxyText? p.endpoint).isNone).map fun p =>
    .invalidEndpoint p.endpoint

/-- The allowed ranges of a rule come before its denied ones. -/
def ruleFault (r : RuleSettings) : Option ConfigFault :=
  ((r.allowed ++ r.denied).find? fun range => (Network.ofRangeText? range).isNone).map fun range =>
    .invalidRange range r.process

def rangeFault (c : Config) : Option ConfigFault := c.rules.findSome? ruleFault

/-- Every process with a proxy, and the position of that proxy. -/
def associations (c : Config) : List (Nat × String) :=
  c.proxies.zipIdx.flatMap fun (p, i) => p.processes.map (i, ·)

def conflicts (a b : Nat × String) : Bool :=
  a.1 != b.1 && ProcessName.key a.2 == ProcessName.key b.2

/-- The first association with a proxy other than an earlier one, given those before it. -/
def firstConflict (before : List (Nat × String)) : List (Nat × String) → Option String
  | [] => none
  | a :: rest => if before.any (conflicts a) then some a.2 else firstConflict (a :: before) rest

def associationFault (c : Config) : Option ConfigFault :=
  (firstConflict [] c.associations).map .conflictingAssociation

def fault (c : Config) : Option ConfigFault :=
  c.limitFault.or (c.endpointFault.or (c.rangeFault.or c.associationFault))

def validate (c : Config) : Except ConfigFault Unit :=
  match c.fault with
  | some fault => .error fault
  | none => .ok ()

end SocksGateway.Config
