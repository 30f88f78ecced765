import SocksGateway.Engine.Decision
import SocksGateway.Engine.Proxies
import SocksGateway.Engine.Rules
import SocksGateway.Log.DrainWorker

namespace SocksGateway

inductive Stage
  | created
  | started
  | stopped
deriving DecidableEq, Inhabited

def Stage.label : Stage → String
  | created => "Created"
  | started => "Started"
  | stopped => "Stopped"

structure Gateway extends Engine where
  stage : Stage := .created
  worker : Option DrainWorker := none

structure GatewayOptions where
  level : Level := .info
  logLimit : Nat := Pipeline.defaultLimit
  logInterval : Duration := Pipeline.defaultInterval
  bypassLan : Bool := false
deriving DecidableEq, Inhabited

namespace Gateway

instance : Inhabited Gateway := ⟨{}⟩

def create (o : GatewayOptions) (relay : Relay) (files : FileTree) : Gateway where
  relay := relay
  log := { level := o.level, ring := Ring.empty o.logLimit,
           interval := Pipeline.clampInterval o.logInterval, files }
  lan := ⟨o.bypassLan⟩

def withEngine {α : Type} (g : Gateway) (r : α × Engine) : α × Gateway :=
  (r.1, { g with toEngine := r.2 })

def withLog (g : Gateway) (log : Pipeline) : Gateway := { g with log }

def mapEngine (g : Gateway) (f : Engine → Engine) : Gateway := { g with toEngine := f g.toEngine }

def startText (e : Engine) : String :=
  "Starting gateway: " ++ toString e.registry.size ++ " proxies, " ++ toString e.policy.size ++
    " process rules, LAN bypass " ++ if e.lan.enabled then "on" else "off"

def bringUp (e : Engine) : List GatewayError × Engine :=
  let (failures, e) := (e.diagnose .info (startText e)).startPending
  let e := failures.foldl
    (fun e f => e.diagnose .warn ("Gateway started without proxy: " ++ f.message)) e
  (failures, e.message .info
    ("Gateway started (" ++ toString failures.length ++ " proxy start failures)"))

/-- A proxy that fails does not keep the gateway from starting. -/
def start (g : Gateway) : Except GatewayError (List GatewayError) × Gateway :=
  if g.stage = .started then (.error .alreadyRunning, g)
  else
    let (worker, log) := DrainWorker.spawn g.log
    let (failures, e) := bringUp { g.toEngine with log }
    (.ok failures, { toEngine := e, stage := .started, worker := some worker })

def grace : Duration := ⟨5, 0⟩

def tearDown (e : Engine) : Engine :=
  let (count, e) := e.stopAll
  e.message .info ("Gateway stopped, " ++ toString count ++ " proxies torn down")

def endWorker (worker : Option DrainWorker) (log : Pipeline) : Pipeline :=
  match worker with
  | none => log
  | some w =>
    let (ended, log) := w.stop log grace
    if ended then log else log.diagnose .warn "Log drain worker abandoned during stop"

/-- Nothing happens to a gateway that is not started. -/
def stop (g : Gateway) : Gateway :=
  if g.stage = .started then
    let e := tearDown g.toEngine
    let e := { e with log := endWorker g.worker e.log }
    { toEngine := e.diagnose .info "Gateway stopped", stage := .stopped, worker := none }
  else g

/-- The end of a gateway: it is stopped and its mirror is closed. -/
def finish (g : Gateway) : Gateway :=
  let g := g.stop
  g.withLog g.log.close

def reportLevel : EventKind → Level
  | .addressError => .error
  | .ndisError => .error
  | .connected => .info
  | .disconnected => .info
  | .message => .info

def report (g : Gateway) (event : EventKind) (payload : Payload) : Bool × Gateway :=
  let (accepted, log) := g.log.append (reportLevel event) event payload
  (accepted, g.withLog log)

/-- Asks the worker, if there is one, for a delivery and lets it take its turn. -/
def flush (g : Gateway) : Gateway :=
  match g.worker with
  | none => g
  | some w =>
    let (w, log) := w.requestFlush.turn g.log
    { g.withLog log with worker := some w }

def mirrorTo (g : Gateway) (path : String) : Except GatewayError Gateway :=
  match g.log.mirrorTo path with
  | .ok log => .ok (g.withLog log)
  | .error e => .error (.file e)

def description (g : Gateway) : String :=
  Description.record "Gateway"
    [("state", g.stage.label), ("registry", g.registry.description),
      ("policy", g.policy.description),
     ("bypass_lan", Description.bool g.lan.enabled), ("log", g.log.description)]

theorem stop_of_ne {g : Gateway} (h : g.stage ≠ .started) : g.stop = g := by simp [stop, h]

theorem stage_stop (g : Gateway) : g.stop.stage ≠ .started := by
  unfold stop
  split
  · simp
  next h => exact h

end Gateway
end SocksGateway
