import SocksGateway.Proofs.Log.Conservation

/-!
A worker among other threads. Its loop is taken apart into what happens at once: under the lock of
its flags, the ring, the subscribers or the mirror. Between two such steps other threads may take
any turns. A step of a `DrainWorker` is a few of them with no turn of another thread in between.
-/
namespace SocksGateway

namespace DrainLoop

/-- Where a worker is. Under the lock of its flags it either goes to sleep, which gives the lock
back, or clears the request for a delivery and learns whether the delivery is its last. -/
inductive Place
  | top
  | asleep
  | roused
  | awake (last : Bool)
  | holding (last : Bool) (batch : List Entry)
  | handed (last : Bool)
  | delivered (last : Bool)
  | leaving
  | finished
  | stuck

namespace Place

def isLast : Place → Bool
  | awake last => last
  | holding last _ => last
  | handed last => last
  | delivered last => last
  | leaving => true
  | finished => true
  | _ => false

def inHand : Place → List (List Entry)
  | holding _ batch => [batch]
  | _ => []

end Place

/-- Whoever asks for something sets a flag, and calls the worker in a turn of its own. A call is
lost if the worker does not sleep by then. -/
inductive Turn
  | worker
  | timeout
  | requestFlush
  | requestShutdown
  | call
  | others (step : LogStep)

inductive Mark
  | sleeps
  | begins
  | completes
  | finishes
deriving DecidableEq

/-- The worker waits or ends. -/
def Mark.isPause : Mark → Bool
  | sleeps => true
  | finishes => true
  | _ => false

end DrainLoop

/-- A worker with its flags, the calls that are on their way to it, and the log that it shares with
others. -/
structure DrainLoop where
  flush : Bool := false
  shutdown : Bool := false
  calls : Nat := 0
  place : DrainLoop.Place := .top
  log : Pipeline

namespace Pipeline

def handOverOf (p : Pipeline) (batch : List Entry) : HandOver :=
  if batch.isEmpty then {} else HandOver.run batch p.subscribers

def withHandOver (p : Pipeline) (batch : List Entry) : Pipeline :=
  { p with
    deliveries := p.deliveries ++ (p.handOverOf batch).deliveries
    diagnostics := p.diagnostics ++ panicReports (p.handOverOf batch).panics batch.length .worker }

theorem deliveries_handOverOf (p : Pipeline) (batch : List Entry) :
    (p.handOverOf batch).deliveries =
      ((p.handOverOf batch).deliveries.map (·.subscriber)).map (⟨·, batch⟩) := by
  unfold handOverOf
  split
  next => rfl
  next => exact HandOver.deliveries_eq batch p.subscribers

theorem onMirror_subscribers (p : Pipeline) (agent : Agent)
    (act : Mirror → FileTree → Mirror.Outcome) :
    (p.onMirror agent act).subscribers = p.subscribers := by
  unfold onMirror; split <;> rfl

theorem subscribers_append (p : Pipeline) (level : Level) (event : EventKind) (payload : Payload) :
    (p.append level event payload).2.subscribers = p.subscribers := by
  unfold append
  split
  next => exact p.onMirror_subscribers _ _
  next => rfl

theorem subscribers_deliver (p : Pipeline) (agent : Agent) :
    (p.deliver agent).log.subscribers = p.subscribers := by
  unfold deliver
  dsimp only
  split
  next => rfl
  next => exact onMirror_subscribers _ _ _

theorem subscribers_mirrorTo {p q : Pipeline} {path : String} (h : p.mirrorTo path = .ok q) :
    q.subscribers = p.subscribers := by
  unfold mirrorTo at h
  cases ho : Mirror.openFile p.files path with
  | error error => rw [ho] at h; cases h
  | ok o => rw [ho] at h; cases h; rfl

end Pipeline

theorem DrainWorker.subscribers_step (w : DrainWorker) (log : Pipeline) :
    (w.step log).2.subscribers = log.subscribers := by
  rcases log.work_cases w with ⟨-, h⟩ | ⟨-, diagnostics, h⟩
  · rw [h, Pipeline.subscribers_deliver]
  · rw [h]

def LogStep.subscribed : LogStep → List Subscriber
  | subscribe s => [s]
  | _ => []

namespace Pipeline

theorem subscribers_perform (p : Pipeline) (s : LogStep) :
    (p.perform s).subscribers = p.subscribers ++ s.subscribed := by
  cases s with
  | append level event payload =>
    exact (p.subscribers_append level event payload).trans (List.append_nil _).symm
  | message level text => exact (p.subscribers_append level _ _).trans (List.append_nil _).symm
  | subscribe s => rfl
  | mirrorTo path =>
    refine Eq.trans ?_ (List.append_nil _).symm
    simp only [perform]
    cases h : p.mirrorTo path with
    | ok q => exact subscribers_mirrorTo h
    | error error => rfl
  | deliver agent => exact (p.subscribers_deliver agent).trans (List.append_nil _).symm
  | work w => exact (w.subscribers_step p).trans (List.append_nil _).symm
  | _ => exact (List.append_nil _).symm

theorem mem_subscribers_perform {p : Pipeline} {s : LogStep} {x : Subscriber}
    (h : x ∈ (p.perform s).subscribers) : x ∈ p.subscribers ∨ s = .subscribe x := by
  rw [subscribers_perform, List.mem_append] at h
  refine h.imp_right fun h => ?_
  cases s with
  | subscribe y => exact congrArg LogStep.subscribe (List.mem_singleton.1 h).symm
  | _ => cases h

end Pipeline

namespace DrainLoop

def spawned (log : Pipeline) : DrainLoop := { log := (DrainWorker.spawn log).2 }

/-- The worker has the lock of its flags and does not wait. -/
def wakeUp (d : DrainLoop) : DrainLoop := { d with flush := false, place := .awake d.shutdown }

def work (d : DrainLoop) : DrainLoop :=
  match d.place with
  | .top => if d.flush || d.shutdown then d.wakeUp else { d with place := .asleep }
  | .asleep => d
  | .roused => d.wakeUp
  | .awake last => { d with place := .holding last d.log.pending, log := d.log.take.2 }
  | .holding last batch =>
    { d with place := if (d.log.handOverOf batch).blocked then .stuck else .handed last,
             log := d.log.withHandOver batch }
  | .handed last => { d with place := .delivered last, log := d.log.onMirror .worker (·.flush ·) }
  | .delivered last => { d with place := if last then .leaving else .top }
  | .leaving =>
    { d with place := .finished, log := d.log.diagnose .debug "Log drain worker exited" .worker }
  | .finished => d
  | .stuck => d

def rouse (d : DrainLoop) : DrainLoop :=
  match d.place with
  | .asleep => { d with place := .roused }
  | _ => d

def next (d : DrainLoop) : Turn → DrainLoop
  | .worker => d.work
  | .timeout => d.rouse
  | .requestFlush => { d with flush := true, calls := d.calls + 1 }
  | .requestShutdown => { d with shutdown := true, calls := d.calls + 1 }
  | .call => if d.calls = 0 then d else { d.rouse with calls := d.calls - 1 }
  | .others s => { d with log := d.log.perform s }

def after (d : DrainLoop) (turns : List Turn) : DrainLoop := turns.foldl next d

def along {α : Type} (f : DrainLoop → Turn → List α) (d : DrainLoop) : List Turn → List α
  | [] => []
  | t :: turns => f d t ++ along f (d.next t) turns

def mark? (d : DrainLoop) : Turn → Option Mark
  | .worker =>
    match d.place with
    | .top => if d.flush || d.shutdown then none else some .sleeps
    | .awake _ => some .begins
    | .handed _ => some .completes
    | .leaving => some .finishes
    | _ => none
  | _ => none

def marks (d : DrainLoop) (turns : List Turn) : List Mark :=
  along (fun d t => (d.mark? t).toList) d turns

def accepted (d : DrainLoop) : Turn → List Entry
  | .others s => d.log.accepted s
  | _ => []

def begun (d : DrainLoop) : Turn → List (List Entry)
  | .worker =>
    match d.place with
    | .awake _ => [d.log.pending]
    | _ => []
  | _ => []

def departed (d : DrainLoop) : Turn → List Departure
  | .others s => d.log.departed s
  | t => (d.begun t).map .taken

/-- The batch that the worker hands over, and whom it reaches. -/
def handedOver (d : DrainLoop) : Turn → List Departure
  | .worker =>
    match d.place with
    | .holding _ batch =>
      [.delivered batch ((d.log.handOverOf batch).deliveries.map (·.subscriber))]
    | _ => []
  | _ => []

def given (d : DrainLoop) : Turn → List Departure
  | .others s => d.log.departed s
  | t => d.handedOver t

section
variable (d : DrainLoop)

theorem after_append (as bs : List Turn) : d.after (as ++ bs) = (d.after as).after bs :=
  List.foldl_append

theorem along_append {α : Type} (f : DrainLoop → Turn → List α) (as bs : List Turn) :
    along f d (as ++ bs) = along f d as ++ along f (d.after as) bs := by
  induction as generalizing d with
  | nil => rfl
  | cons t as ih => rw [List.cons_append, along, along, ih, List.append_assoc]; rfl

theorem marks_cons (t : Turn) (turns : List Turn) :
    d.marks (t :: turns) = (d.mark? t).toList ++ (d.next t).marks turns := rfl

end

def placeOf : DrainWorker.Phase → Place
  | .waiting => .top
  | .awake last => .awake last
  | .delivered last => .delivered last
  | .finished => .finished
  | .stuck => .stuck

def ofWorker (w : DrainWorker) (log : Pipeline) : DrainLoop :=
  ⟨w.flush, w.shutdown, 0, placeOf w.phase, log⟩

theorem after_request (w : DrainWorker) (log : Pipeline) :
    (ofWorker w log).after [.requestFlush, .call] = ofWorker w.requestFlush log ∧
      (ofWorker w log).after [.requestShutdown, .call] = ofWorker w.requestShutdown log := by
  obtain ⟨f, s, phase⟩ := w
  cases phase <;> exact ⟨rfl, rfl⟩

theorem deliver_eq (p : Pipeline) :
    (p.deliver .worker).blocked = (p.take.2.handOverOf p.pending).blocked ∧
      (p.deliver .worker).log =
        if (p.take.2.handOverOf p.pending).blocked then p.take.2.withHandOver p.pending
        else (p.take.2.withHandOver p.pending).onMirror .worker (·.flush ·) := ⟨rfl, rfl⟩

theorem after_awake (f s last : Bool) (log : Pipeline) :
    ∃ turns, (∀ t ∈ turns, t = Turn.worker) ∧
    (DrainLoop.mk f s 0 (.awake last) log).after turns =
      ⟨f, s, 0, placeOf (DrainWorker.afterDelivery last (log.deliver .worker)),
        (log.deliver .worker).log⟩ := by
  obtain ⟨hblocked, hlog⟩ := deliver_eq log
  rw [DrainWorker.afterDelivery, hlog, hblocked]
  have htwo : (DrainLoop.mk f s 0 (.awake last) log).after [.worker, .worker] =
      ⟨f, s, 0, if (log.take.2.handOverOf log.pending).blocked then .stuck else .handed last,
        log.take.2.withHandOver log.pending⟩ := rfl
  cases hb : (log.take.2.handOverOf log.pending).blocked with
  | true =>
    refine ⟨[.worker, .worker], by simp, ?_⟩
    rw [htwo, hb]
    rfl
  | false =>
    refine ⟨[.worker, .worker] ++ [.worker], by simp, ?_⟩
    rw [after_append, htwo, hb]
    rfl

/-- A step of a worker is a few turns of its own, with a timeout among them if nobody asked for
anything. -/
theorem step_eq_after (w : DrainWorker) (log : Pipeline) :
    ∃ turns, (∀ t ∈ turns, t = .worker ∨ t = .timeout) ∧
      (ofWorker w log).after turns = ofWorker (w.step log).1 (w.step log).2 := by
  obtain ⟨f, s, phase⟩ := w
  cases phase with
  | waiting =>
    cases hf : f || s with
    | true =>
      refine ⟨[.worker], by simp, ?_⟩
      show (if f || s then wakeUp _ else _) = _
      rw [hf]
      rfl
    | false =>
      obtain ⟨rfl, rfl⟩ := Bool.or_eq_false_iff.1 hf
      exact ⟨[.worker, .timeout, .worker], by simp, rfl⟩
  | awake last =>
    obtain ⟨turns, ht, ha⟩ := after_awake f s last log
    exact ⟨turns, fun t h => .inl (ht t h), ha⟩
  | delivered last =>
    cases last with
    | true => exact ⟨[.worker, .worker], by simp, rfl⟩
    | false => exact ⟨[.worker], by simp, rfl⟩
  | finished => exact ⟨[], by simp, rfl⟩
  | stuck => exact ⟨[], by simp, rfl⟩

section
variable (d : DrainLoop)

theorem log_rouse : d.rouse.log = d.log := by
  unfold rouse; split <;> rfl

theorem log_call : (d.next .call).log = d.log := by
  simp only [next]
  split
  · rfl
  · exact d.log_rouse

theorem pending_work :
    d.log.pending = ((d.begun .worker).map Departure.taken).flatMap Departure.entries ++
      d.work.log.pending := by
  unfold begun work
  cases d.place with
  | awake last => exact ((List.append_nil _).trans (List.append_nil _)).symm
  | handed last => exact congrArg Ring.entries (d.log.onMirror_ring _ _).symm
  | top => dsimp only; split <;> rfl
  | _ => rfl

theorem next_conserves (t : Turn) :
    d.log.pending ++ d.accepted t =
      (d.departed t).flatMap Departure.entries ++ (d.next t).log.pending := by
  cases t with
  | worker => exact (List.append_nil _).trans d.pending_work
  | others s => exact d.log.perform_conserves s
  | timeout => exact (List.append_nil _).trans (congrArg Pipeline.pending d.log_rouse.symm)
  | call => exact (List.append_nil _).trans (congrArg Pipeline.pending d.log_call.symm)
  | _ => exact List.append_nil _

theorem after_conserves (turns : List Turn) :
    d.log.pending ++ along accepted d turns =
      (along departed d turns).flatMap Departure.entries ++ (d.after turns).log.pending := by
  induction turns generalizing d with
  | nil => exact List.append_nil _
  | cons t turns ih =>
    rw [along, along, ← List.append_assoc, next_conserves, List.append_assoc,
      ih, ← List.append_assoc, ← List.flatMap_append]
    rfl

theorem inHand_rouse : d.rouse.place.inHand = d.place.inHand := by
  unfold rouse
  split
  next h => rw [h]; rfl
  next => rfl

/-- The worker hands over what it took, and takes nothing before it has handed that over. -/
theorem next_hands (t : Turn) :
    d.place.inHand ++ d.begun t = (d.handedOver t).map Departure.entries ++
      (d.next t).place.inHand := by
  cases t with
  | worker =>
    obtain ⟨f, s, c, place, log⟩ := d
    cases place with
    | top =>
      simp only [next, work]
      split <;> rfl
    | holding last batch =>
      simp only [next, work]
      split <;> rfl
    | delivered last => cases last <;> rfl
    | _ => rfl
  | timeout => exact (List.append_nil _).trans d.inHand_rouse.symm
  | call =>
    refine (List.append_nil _).trans ?_
    simp only [next]
    split
    · rfl
    · exact d.inHand_rouse.symm
  | _ => exact List.append_nil _

theorem after_hands (turns : List Turn) :
    d.place.inHand ++ along begun d turns =
      (along handedOver d turns).map Departure.entries ++ (d.after turns).place.inHand := by
  induction turns generalizing d with
  | nil => exact List.append_nil _
  | cons t turns ih =>
    rw [along, along, ← List.append_assoc, next_hands, List.append_assoc, ih,
      ← List.append_assoc, ← List.map_append]
    rfl

theorem next_deliveries (t : Turn) :
    (d.next t).log.deliveries.toList =
      d.log.deliveries.toList ++ (d.given t).flatMap Departure.deliveries := by
  cases t with
  | worker =>
    obtain ⟨f, s, c, place, log⟩ := d
    cases place with
    | top =>
      refine Eq.trans ?_ (List.append_nil _).symm
      simp only [next, work]
      split <;> rfl
    | holding last batch =>
      refine Eq.trans ?_ (congrArg (log.deliveries.toList ++ ·) (List.append_nil _).symm)
      exact Array.toList_appendList.trans (congrArg _ (log.deliveries_handOverOf batch))
    | handed last => exact (congrArg _ (log.onMirror_deliveries _ _)).trans (List.append_nil _).symm
    | _ => exact (List.append_nil _).symm
  | others s => exact d.log.deliveries_perform s
  | timeout => exact (congrArg (·.deliveries.toList) d.log_rouse).trans (List.append_nil _).symm
  | call => exact (congrArg (·.deliveries.toList) d.log_call).trans (List.append_nil _).symm
  | _ => exact (List.append_nil _).symm

theorem after_deliveries (turns : List Turn) :
    (d.after turns).log.deliveries.toList =
      d.log.deliveries.toList ++ (along given d turns).flatMap Departure.deliveries := by
  induction turns generalizing d with
  | nil => exact (List.append_nil _).symm
  | cons t turns ih =>
    rw [along, List.flatMap_append, ← List.append_assoc, ← next_deliveries, ← ih]
    rfl

end
end DrainLoop
end SocksGateway
