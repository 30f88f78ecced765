import SocksGateway.Log.Pipeline

/-!
The worker that drains the event log. It waits until it is asked for a delivery, asked to end, or
its time is up; delivers; and waits again, unless it had been asked to end when it woke up.
-/
namespace SocksGateway

namespace DrainWorker

/-- What a worker is about to do. Once awake it knows whether this is its last delivery. A worker
whose delivery is blocked by a subscriber is stuck. -/
inductive Phase
  | waiting
  | awake (last : Bool)
  | delivered (last : Bool)
  | finished
  | stuck
deriving DecidableEq, Inhabited

end DrainWorker

structure DrainWorker where
  flush : Bool := false
  shutdown : Bool := false
  phase : DrainWorker.Phase := .waiting
deriving DecidableEq, Inhabited

namespace DrainWorker

def requestFlush (w : DrainWorker) : DrainWorker := { w with flush := true }

def requestShutdown (w : DrainWorker) : DrainWorker := { w with shutdown := true }

def afterDelivery (last : Bool) (d : Pipeline.Delivered) : Phase :=
  if d.blocked then .stuck else .delivered last

def step (w : DrainWorker) (log : Pipeline) : DrainWorker × Pipeline :=
  match w.phase with
  | .waiting => ({ w with flush := false, phase := .awake w.shutdown }, log)
  | .awake last =>
    let d := log.deliver .worker
    ({ w with phase := afterDelivery last d }, d.log)
  | .delivered true =>
    ({ w with phase := .finished }, log.diagnose .debug "Log drain worker exited" .worker)
  | .delivered false => ({ w with phase := .waiting }, log)
  | .finished => (w, log)
  | .stuck => (w, log)

def steps : Nat → DrainWorker → Pipeline → DrainWorker × Pipeline
  | 0, w, log => (w, log)
  | n + 1, w, log => let (w, log) := w.step log; steps n w log

/-- A waiting worker wakes up, delivers, and waits again or ends. -/
def turn (w : DrainWorker) (log : Pipeline) : DrainWorker × Pipeline := steps 3 w log

def spawn (log : Pipeline) : DrainWorker × Pipeline :=
  ({}, log.diagnose .debug "Log drain worker started")

def abandonedText (grace : Duration) : String :=
  "Log drain worker did not stop within " ++ grace.toText ++ ", abandoning it"

/-- Asks for a last delivery and waits for it. A worker that is stuck is abandoned; the result says
whether it ended. -/
def stop (w : DrainWorker) (log : Pipeline) (grace : Duration) : Bool × Pipeline :=
  let (w, log) := w.requestShutdown.turn log
  if w.phase = .finished then (true, log)
  else (false, log.diagnose .warn (abandonedText grace))

theorem step_finished {w : DrainWorker} (h : w.phase = .finished) (log : Pipeline) :
    w.step log = (w, log) := by
  simp [step, h]

end DrainWorker
end SocksGateway
