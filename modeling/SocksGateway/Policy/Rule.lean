import SocksGateway.Net.NetworkSet
import SocksGateway.Policy.ProcessName
import SocksGateway.Proxy.Basic

namespace SocksGateway

/-- The name is as it was first given. An excluded process always connects directly; so it does to
denied destinations, and to any other than the allowed ones if there are such. -/
structure Rule where
  name : String
  proxy : Option Handle := none
  excluded : Bool := false
  allowed : NetworkSet := {}
  denied : NetworkSet := {}
deriving DecidableEq, Inhabited

namespace Rule

def ofName (name : String) : Rule := { name := ProcessName.trimmed name }

def key (r : Rule) : String := ProcessName.key r.name

def admits (r : Rule) (a : Address) : Bool :=
  !r.excluded && (r.allowed.isEmpty || r.allowed.contains a) && !r.denied.contains a

def setDescription (s : NetworkSet) : String :=
  Description.record "CidrSet" [("ranges", Description.list (s.ranges.map (·.toText)))]

def description (r : Rule) : String :=
  Description.record "ProcessRule"
    [("name", Quoted.string r.name), ("proxy", Description.option (r.proxy.map (·.description))),
     ("excluded", Description.bool r.excluded), ("include", setDescription r.allowed),
     ("exclude", setDescription r.denied)]

end Rule
end SocksGateway
