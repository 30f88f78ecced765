import SocksGateway.Engine.Basic

namespace SocksGateway.Engine

def placeText (h : Handle) (e : Endpoint) : String := h.toText ++ " at " ++ e.toText

/-- A text that names no endpoint takes no handle. -/
def register (e : Engine) (endpoint : String) (protocols : ProtocolMask)
    (credentials : Option Credentials) (autostart : Bool) : Except GatewayError Handle × Engine :=
  match Endpoint.ofProxyText? endpoint with
  | none => (.error (.invalidEndpoint endpoint), e)
  | some address =>
    let handle := e.registry.nextHandle
    let text := "SOCKS5 proxy " ++ placeText handle address ++ " (" ++ protocols.text ++ ")"
    let e := { e with registry := e.registry.insert address credentials protocols autostart }
    (.ok handle, (e.diagnose .info ("Registered " ++ text)).message .info ("Added " ++ text))

def handleData (h : Handle) : Payload := .data (UInt64.ofNat h.number)

def markRunning (e : Engine) (p : Proxy) : Engine :=
  let e := e.call (.started p.handle p.endpoint)
  let e := { e with registry := e.registry.setState p.handle .running }
  let e := e.diagnose .info ("Proxy " ++ p.handle.toText ++ " running at " ++ p.endpoint.toText)
  e.append .info .connected (handleData p.handle)

def reportRefusal (e : Engine) (p : Proxy) (reason : String) : Engine :=
  let text := "Failed to start proxy " ++ placeText p.handle p.endpoint ++ ": " ++ reason
  ((e.call (.refused p.handle p.endpoint)).diagnose .error text).message .error text

/-- Asks the relay to start a stopped proxy; a running one is left alone. -/
def startProxy (e : Engine) (h : Handle) : Except GatewayError Unit × Engine :=
  match e.registry.get? h with
  | none => (.error (.unknownProxy h), e)
  | some p =>
    if p.isRunning then (.ok (), e)
    else match e.relay.answer e.calls.toList p with
      | none => (.ok (), e.markRunning p)
      | some failure => (.error (.startFailed h failure.reason), e.reportRefusal p failure.reason)

/-- A proxy that cannot be started stays registered. -/
def addProxy (e : Engine) (endpoint : String) (protocols : ProtocolMask)
    (credentials : Option Credentials) (start : Bool) : Except GatewayError Handle × Engine :=
  match e.register endpoint protocols credentials start with
  | (.error error, e) => (.error error, e)
  | (.ok h, e) =>
    if start then
      match e.startProxy h with
      | (.error error, e) => (.error error, e)
      | (.ok (), e) => (.ok h, e)
    else (.ok h, e)

def startEach (e : Engine) : List Handle → List GatewayError × Engine
  | [] => ([], e)
  | h :: hs =>
    match e.startProxy h with
    | (.error error, e) => let (errors, e) := e.startEach hs; (error :: errors, e)
    | (.ok (), e) => e.startEach hs

def startPending (e : Engine) : List GatewayError × Engine := e.startEach e.registry.pending

def stopProxy (e : Engine) (p : Proxy) : Engine :=
  let e := e.call (.stopped p.handle p.endpoint)
  let e := { e with registry := e.registry.setState p.handle .stopped }
  let e := e.diagnose .debug ("Proxy " ++ p.handle.toText ++ " stopped")
  e.append .info .disconnected (handleData p.handle)

def stopAll (e : Engine) : Nat × Engine :=
  (e.registry.running.length, e.registry.running.foldl stopProxy e)

end SocksGateway.Engine
