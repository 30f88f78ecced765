import SocksGateway.Gateway.Basic

namespace SocksGateway

inductive Operation
  | start
  | stop
  | addProxy (endpoint : String) (protocols : ProtocolMask) (credentials : Option Credentials)
      (start : Bool)
  | change (change : RuleChange)
  | setLanBypass (enabled : Bool)
  | decide (process : String) (destination : Endpoint) (protocol : Protocol)
  | report (event : EventKind) (payload : Payload)
  | subscribe (subscriber : Subscriber)
  | flush
  | readLog
  | setLogLevel (level : Level)
  | setLogLimit (limit : Nat)
  | setLogInterval (interval : Duration)
  | setLogMirror (path : String)

inductive Answer
  | done
  | failures (errors : List GatewayError)
  | handle (handle : Handle)
  | decision (decision : Decision)
  | accepted (accepted : Bool)
  | entries (entries : List Entry)
deriving DecidableEq, Inhabited

namespace Gateway

def answering {α : Type} (f : α → Answer) (r : Except GatewayError α × Gateway) :
    Except GatewayError Answer × Gateway :=
  (r.1.map f, r.2)

def doing (g : Gateway) : Except GatewayError Answer × Gateway := (.ok .done, g)

def perform (g : Gateway) : Operation → Except GatewayError Answer × Gateway
  | .start => answering .failures g.start
  | .stop => doing g.stop
  | .addProxy endpoint protocols credentials start =>
    answering .handle (g.withEngine (g.addProxy endpoint protocols credentials start))
  | .change c => answering (fun _ => .done) (g.withEngine (g.toEngine.change c))
  | .setLanBypass enabled => doing (g.mapEngine (·.setLanBypass enabled))
  | .decide process destination protocol =>
    let (d, g) := g.withEngine (g.toEngine.decide process destination protocol)
    (.ok (.decision d), g)
  | .report event payload =>
    let (accepted, g) := g.report event payload
    (.ok (.accepted accepted), g)
  | .subscribe s => doing (g.withLog (g.log.subscribe s))
  | .flush => doing g.flush
  | .readLog =>
    let (entries, log) := g.log.take
    (.ok (.entries entries), g.withLog log)
  | .setLogLevel level => doing (g.withLog (g.log.setLevel level))
  | .setLogLimit limit => doing (g.withLog (g.log.setLimit limit))
  | .setLogInterval interval => doing (g.withLog (g.log.setInterval interval))
  | .setLogMirror path =>
    match g.mirrorTo path with
    | .ok g => doing g
    | .error e => (.error e, g)

def run (g : Gateway) : List Operation → List (Except GatewayError Answer) × Gateway
  | [] => ([], g)
  | op :: ops =>
    let (answer, g) := g.perform op
    let (answers, g) := g.run ops
    (answer :: answers, g)

theorem run_append (g : Gateway) (as bs : List Operation) :
    g.run (as ++ bs) = ((g.run as).1 ++ ((g.run as).2.run bs).1, ((g.run as).2.run bs).2) := by
  induction as generalizing g with
  | nil => rfl
  | cons op as ih => simp [run, ih]

end Gateway
end SocksGateway
