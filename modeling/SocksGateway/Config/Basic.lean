import SocksGateway.Calendar.Duration
import SocksGateway.Log.Level
import SocksGateway.Proxy.Credentials
import SocksGateway.Proxy.Protocol

namespace SocksGateway

/-- The interval is in milliseconds; a mirror is given by its path. -/
structure LogSettings where
  level : Level := .info
  limit : UInt64 := 100
  interval : UInt64 := 1000
  mirror : Option String := none
deriving DecidableEq, Inhabited

def LogSettings.intervalDuration (s : LogSettings) : Duration := Duration.ofMillis s.interval.toNat

structure ProxySettings where
  endpoint : String
  username : Option String := none
  password : Option String := none
  protocols : ProtocolMask := .both
  start : Bool := true
  processes : List String := []
deriving DecidableEq, Inhabited

def ProxySettings.credentials (s : ProxySettings) : Option Credentials :=
  Credentials.ofParts? s.username s.password

structure RuleSettings where
  process : String
  allowed : List String := []
  denied : List String := []
deriving DecidableEq, Inhabited

structure Config where
  bypassLan : Bool := false
  excludes : List String := []
  logging : LogSettings := {}
  proxies : List ProxySettings := []
  rules : List RuleSettings := []
deriving DecidableEq, Inhabited

end SocksGateway
