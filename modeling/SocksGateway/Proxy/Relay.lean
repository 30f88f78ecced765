import SocksGateway.Proxy.Basic

namespace SocksGateway

structure RelayFailure where
  causes : List String
deriving DecidableEq, Inhabited

def RelayFailure.reason (f : RelayFailure) : String := ": ".intercalate f.causes

inductive RelayCall
  | started (handle : Handle) (endpoint : Endpoint)
  | refused (handle : Handle) (endpoint : Endpoint)
  | stopped (handle : Handle) (endpoint : Endpoint)
deriving DecidableEq, Inhabited

namespace RelayCall

def handle : RelayCall → Handle
  | started h _ => h
  | refused h _ => h
  | stopped h _ => h

def text (verb : String) (h : Handle) (e : Endpoint) : String :=
  verb ++ " " ++ h.toText ++ " " ++ e.toText

def toText : RelayCall → String
  | started h e => text "start" h e
  | refused h e => text "start" h e
  | stopped h e => text "stop" h e

end RelayCall

/-- The answer to a call for a start, by the calls before it and the proxy. -/
structure Relay where
  answer : List RelayCall → Proxy → Option RelayFailure

def Relay.accepting : Relay := ⟨fun _ _ => none⟩

instance : Inhabited Relay := ⟨.accepting⟩

end SocksGateway
