import SocksGateway.Calendar.Duration
import SocksGateway.Log.Level
import SocksGateway.Log.Mirror
import SocksGateway.Log.Ring

/-!
The event log: entries that pass the threshold are copied to the mirror and wait in a ring until
they are taken, or handed in one batch to every subscriber.
-/
namespace SocksGateway

/-- What a subscriber does with a batch; one that blocks never returns. -/
inductive Reaction
  | returns
  | panics
  | blocks
deriving DecidableEq, Inhabited

structure Subscriber where
  name : String
  reaction : List Entry → Reaction := fun _ => .returns

structure Delivery where
  subscriber : String
  batch : List Entry
deriving DecidableEq, Inhabited

structure HandOver where
  deliveries : List Delivery := []
  panics : Nat := 0
  blocked : Bool := false
deriving DecidableEq, Inhabited

namespace HandOver

/-- One subscriber after the other; none is reached after one that blocks. -/
def run (batch : List Entry) : List Subscriber → HandOver
  | [] => {}
  | s :: ss =>
    let delivery : Delivery := ⟨s.name, batch⟩
    match s.reaction batch with
    | .returns => let h := run batch ss; { h with deliveries := delivery :: h.deliveries }
    | .panics =>
      let h := run batch ss
      { h with deliveries := delivery :: h.deliveries, panics := h.panics + 1 }
    | .blocks => ⟨[delivery], 0, true⟩

theorem deliveries_run {batch : List Entry} {ss : List Subscriber}
    (h : ∀ s ∈ ss, s.reaction batch ≠ .blocks) :
    (run batch ss).deliveries = ss.map (⟨·.name, batch⟩) ∧
      (run batch ss).blocked = false := by
  induction ss with
  | nil => exact ⟨rfl, rfl⟩
  | cons s ss ih =>
    obtain ⟨h1, h2⟩ := ih fun x hx => h x (List.mem_cons_of_mem _ hx)
    have hs := h s List.mem_cons_self
    unfold run
    split
    · exact ⟨by simp [h1], h2⟩
    · exact ⟨by simp [h1], h2⟩
    next hb => exact absurd hb hs

end HandOver

/-- Time stamps are taken from `clock`; the interval is in milliseconds and never zero. -/
structure Pipeline where
  clock : UInt64 := 0
  level : Level := .info
  interval : UInt64 := 1000
  ring : Ring Entry := Ring.empty 100
  mirror : Option Mirror := none
  subscribers : List Subscriber := []
  files : FileTree := {}
  diagnostics : Array Diagnostic := #[]
  deliveries : Array Delivery := #[]

namespace Pipeline

def defaultLimit : Nat := 100

def defaultInterval : Duration := ⟨1, 0⟩

instance : Inhabited Pipeline := ⟨{}⟩

def pending (p : Pipeline) : List Entry := p.ring.entries

def limit (p : Pipeline) : Nat := p.ring.limit

def setLevel (p : Pipeline) (level : Level) : Pipeline := { p with level }

def setLimit (p : Pipeline) (limit : Nat) : Pipeline := { p with ring := p.ring.setLimit limit }

/-- At least one millisecond, and at most as many as the counter holds. -/
def clampInterval (d : Duration) : UInt64 :=
  UInt64.ofNat (max 1 (min d.millis 18446744073709551615))

def setInterval (p : Pipeline) (d : Duration) : Pipeline := { p with interval := clampInterval d }

def intervalDuration (p : Pipeline) : Duration := Duration.ofMillis p.interval.toNat

def subscribe (p : Pipeline) (s : Subscriber) : Pipeline :=
  { p with subscribers := p.subscribers ++ [s] }

def diagnose (p : Pipeline) (severity : Severity) (text : String) (agent : Agent := .caller) :
    Pipeline :=
  { p with diagnostics := p.diagnostics.push ⟨severity, text, agent⟩ }

/-- The mirror's reports are those of the agent at work. -/
def onMirror (p : Pipeline) (agent : Agent) (act : Mirror → FileTree → Mirror.Outcome) :
    Pipeline :=
  match p.mirror with
  | none => p
  | some m =>
    let o := act m p.files
    { p with mirror := some o.mirror, files := o.files,
             diagnostics := p.diagnostics ++ o.diagnostics.map ({ · with agent }) }

def setMirror (p : Pipeline) (mirror : Option Mirror) : Pipeline :=
  { p with mirror, files := match p.mirror with
                            | some old => old.close p.files
                            | none => p.files }

def mirrorTo (p : Pipeline) (path : String) : Except FileError Pipeline := do
  let o ← Mirror.openFile p.files path
  .ok <|
    setMirror { p with files := o.files, diagnostics := p.diagnostics ++ o.diagnostics } o.mirror

def entry (p : Pipeline) (event : EventKind) (payload : Payload) : Entry :=
  ⟨p.clock, event, payload⟩

def accept (p : Pipeline) (e : Entry) : Pipeline :=
  let p := p.onMirror .caller (·.record · e)
  { p with ring := p.ring.push e }

/-- Whether the entry was accepted, and the log after it. -/
def append (p : Pipeline) (level : Level) (event : EventKind) (payload : Payload) :
    Bool × Pipeline :=
  if p.level.allows level then (true, p.accept (p.entry event payload)) else (false, p)

def message (p : Pipeline) (level : Level) (text : String) : Bool × Pipeline :=
  p.append level .message (.description text)

def take (p : Pipeline) : List Entry × Pipeline := (p.pending, { p with ring := p.ring.clear })

/-- A log after a delivery, which a subscriber that blocks keeps from being completed. -/
structure Delivered where
  count : Nat
  blocked : Bool
  log : Pipeline

def panicText (count : Nat) : String :=
  "Log subscriber panicked handling " ++ toString count ++ " entries"

def panicReports (panics count : Nat) (agent : Agent) : List Diagnostic :=
  List.replicate panics ⟨.error, panicText count, agent⟩

/-- What the subscribers get of the pending entries; without entries nobody gets anything. -/
def handOver (p : Pipeline) : HandOver :=
  if p.pending.isEmpty then {} else HandOver.run p.pending p.subscribers

def drained (p : Pipeline) (agent : Agent) : Pipeline :=
  { p with
    ring := p.ring.clear
    deliveries := p.deliveries ++ p.handOver.deliveries
    diagnostics := p.diagnostics ++ panicReports p.handOver.panics p.pending.length agent }

def deliver (p : Pipeline) (agent : Agent := .caller) : Delivered where
  count := p.pending.length
  blocked := p.handOver.blocked
  log :=
    if p.handOver.blocked then p.drained agent else (p.drained agent).onMirror agent (·.flush ·)

def close (p : Pipeline) : Pipeline := p.setMirror none

def description (p : Pipeline) : String :=
  Description.record "LogPipeline"
    [("level", p.level.label), ("limit", toString p.limit), ("interval", p.intervalDuration.toText),
     ("pending", toString p.pending.length)]

theorem setMirror_mirror (p : Pipeline) (m : Option Mirror) : (p.setMirror m).mirror = m := rfl

theorem onMirror_ring (p : Pipeline) (agent : Agent)
    (act : Mirror → FileTree → Mirror.Outcome) :
    (p.onMirror agent act).ring = p.ring := by
  unfold onMirror; split <;> rfl

theorem pending_accept (p : Pipeline) (e : Entry) :
    (p.accept e).pending <:+ p.pending ++ [e] := by
  simp only [accept, pending, onMirror_ring]
  exact Ring.push_entries_suffix _ _

theorem pending_deliver (p : Pipeline) (agent : Agent) : (p.deliver agent).log.pending = [] := by
  unfold deliver pending
  dsimp only
  split
  · rfl
  · rw [onMirror_ring]
    rfl

theorem clampInterval_ne_zero (d : Duration) : clampInterval d ≠ 0 := by
  intro h
  have := congrArg UInt64.toNat h
  simp only [clampInterval, UInt64.toNat_ofNat'] at this
  change _ = 0 at this
  omega

end Pipeline
end SocksGateway
