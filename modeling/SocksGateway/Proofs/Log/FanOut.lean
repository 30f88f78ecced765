import SocksGateway.Proofs.Log.Copy
import SocksGateway.Proofs.Log.Progress

/-!
Batches and their readers. A delivery hands what is pending to all subscribers that there are by
then, in the order in which they subscribed and whichever of them panic, and flushes the mirror. So
from any moment on all subscribers of that moment get the same batches.
-/
namespace SocksGateway

def LogStep.deliverer? : LogStep → Option Agent
  | deliver agent => some agent
  | work w =>
    match w.phase with
    | .awake _ => some .worker
    | _ => none
  | _ => none

namespace Delivery

def toEach (ss : List Subscriber) (batch? : Option (List Entry)) : List Delivery :=
  batch?.toList.flatMap fun batch => ss.map (⟨·.name, batch⟩)

/-- What the subscriber at a place gets of the deliveries of one batch. -/
def heard (place : Nat) (ds : List Delivery) : List (List Entry) :=
  (ds[place]?.map Delivery.batch).toList

theorem heard_toEach {place : Nat} {ss : List Subscriber} (h : place < ss.length)
    (batch? : Option (List Entry)) :
    heard place (toEach ss batch?) = batch?.toList := by
  cases batch? with
  | none => rfl
  | some batch => simp [toEach, heard, h]

end Delivery

namespace Pipeline

/-- Nobody blocks of those that subscribed and of those that will. -/
structure Unblocked (p : Pipeline) (steps : List LogStep) : Prop where
  now : ∀ s ∈ p.subscribers, s.NeverBlocks
  later : ∀ s, .subscribe s ∈ steps → s.NeverBlocks

/-- What is delivered in a step, in the order in which it is. -/
def gained (p : Pipeline) (s : LogStep) : List Delivery :=
  (p.perform s).deliveries.toList.drop p.deliveries.size

def received (place : Nat) (p : Pipeline) (s : LogStep) : List (List Entry) :=
  Delivery.heard place (p.gained s)

def batch? (p : Pipeline) (s : LogStep) : Option (List Entry) :=
  if s.deliverer?.isSome && !p.pending.isEmpty then some p.pending else none

theorem subscribers_after (p : Pipeline) (steps : List LogStep) :
    (p.after steps).subscribers = p.subscribers ++ steps.flatMap LogStep.subscribed := by
  induction steps generalizing p with
  | nil => exact (List.append_nil _).symm
  | cons s steps ih =>
    rw [List.flatMap_cons, ← List.append_assoc, ← subscribers_perform]
    exact ih _

theorem Unblocked.perform {p : Pipeline} {s : LogStep} {steps : List LogStep}
    (h : p.Unblocked (s :: steps)) :
    (p.perform s).Unblocked steps := by
  refine ⟨fun x hx => ?_, fun x hx => h.later x (List.mem_cons_of_mem _ hx)⟩
  rcases mem_subscribers_perform hx with hx | rfl
  · exact h.now x hx
  · exact h.later x List.mem_cons_self

theorem Unblocked.after {p : Pipeline} {before after : List LogStep}
    (h : p.Unblocked (before ++ after)) :
    (p.after before).Unblocked after := by
  induction before generalizing p with
  | nil => exact h
  | cons s before ih => exact ih h.perform

theorem gained_eq (p : Pipeline) (s : LogStep) :
    p.gained s = (p.departed s).flatMap Departure.deliveries := by
  rw [gained, deliveries_perform, ← Array.length_toList, List.drop_left]

theorem deliveries_after_eq (p : Pipeline) (steps : List LogStep) :
    (p.after steps).deliveries.toList = p.deliveries.toList ++ along gained p steps := by
  induction steps generalizing p with
  | nil => exact (List.append_nil _).symm
  | cons s steps ih =>
    rw [along, gained_eq, ← List.append_assoc, ← deliveries_perform]
    exact ih _

theorem departed_of_deliverer {p : Pipeline} {s : LogStep} {agent : Agent}
    (hs : s.deliverer? = some agent) :
    p.departed s = [p.delivery] ∧ p.perform s = (p.deliver agent).log := by
  cases s with
  | deliver agent => cases hs; exact ⟨rfl, rfl⟩
  | work w =>
    obtain ⟨flush, shutdown, phase⟩ := w
    cases phase with
    | awake last => cases hs; exact ⟨rfl, rfl⟩
    | _ => cases hs
  | _ => cases hs

theorem gained_of_not_delivering {p : Pipeline} {s : LogStep} (hs : s.deliverer? = none) :
    p.gained s = [] := by
  rw [gained_eq]
  cases s with
  | append level event payload => exact p.deliveries_displaced _
  | message level text => exact p.deliveries_displaced _
  | deliver agent => cases hs
  | work w =>
    obtain ⟨flush, shutdown, phase⟩ := w
    cases phase with
    | awake last => cases hs
    | _ => rfl
  | _ => rfl

section
variable {p : Pipeline} (h : ∀ s ∈ p.subscribers, s.NeverBlocks)
include h

/-- Whoever panics keeps nobody from getting the batch. -/
theorem handOverOf_of_unblocked (batch : List Entry) : (p.handOverOf batch).blocked = false ∧
    (p.handOverOf batch).deliveries =
      if batch = [] then [] else p.subscribers.map (⟨·.name, batch⟩) := by
  unfold handOverOf
  cases batch with
  | nil => exact ⟨rfl, rfl⟩
  | cons e es =>
    obtain ⟨hdeliveries, hblocked⟩ := HandOver.deliveries_run fun s hs => h s hs (e :: es)
    exact ⟨hblocked, hdeliveries⟩

theorem gained_of_deliverer {s : LogStep} {agent : Agent} (hs : s.deliverer? = some agent) :
    p.gained s = if p.pending = [] then [] else p.subscribers.map (⟨·.name, p.pending⟩) := by
  rw [gained_eq, (departed_of_deliverer hs).1, List.flatMap_singleton, ← deliveries_handOver]
  exact (handOverOf_of_unblocked h p.pending).2

theorem gained_eq_toEach (s : LogStep) :
    p.gained s = Delivery.toEach p.subscribers (p.batch? s) := by
  unfold batch?
  cases hs : s.deliverer? with
  | none =>
    rw [gained_of_not_delivering hs]
    rfl
  | some agent =>
    rw [gained_of_deliverer h hs]
    cases p.pending with
    | nil => rfl
    | cons e es => exact (List.flatMap_singleton _ _).symm

end

theorem along_received {p : Pipeline} {steps : List LogStep} (h : p.Unblocked steps) {place : Nat}
    (hplace : place < p.subscribers.length) :
    along (received place) p steps = along (fun p s => (p.batch? s).toList) p steps := by
  induction steps generalizing p with
  | nil => rfl
  | cons s steps ih =>
    have hlater : place < (p.perform s).subscribers.length := by
      rw [subscribers_perform, List.length_append]
      exact Nat.lt_add_right _ hplace
    rw [along, along, received, gained_eq_toEach h.now,
      Delivery.heard_toEach hplace, ih h.perform hlater]

/-- A delivery, as it comes to those that it is for. -/
structure FannedOut (p : Pipeline) (s : LogStep) (agent : Agent) : Prop where
  returns : p.perform s = (p.deliver agent).log ∧ (p.deliver agent).blocked = false ∧
    (p.deliver agent).count = p.pending.length
  hands : p.gained s = if p.pending = [] then [] else p.subscribers.map (⟨·.name, p.pending⟩)
  flushes : ∀ m, p.mirror = some m → m.disabled = false →
    ∃ m', (p.perform s).mirror = some m' ∧
    m'.sink = (m.sink.flush p.files).1.1 ∧ (p.perform s).files = (m.sink.flush p.files).1.2 ∧
    ∀ d, m.sink = .device d →
      ∃ d', m'.sink = .device d' ∧ d'.flushCalls = d.flushCalls + 1 ∧
        d'.writeCalls = d.writeCalls

theorem fannedOut {p : Pipeline} (h : ∀ s ∈ p.subscribers, s.NeverBlocks) {s : LogStep}
    {agent : Agent} (hs : s.deliverer? = some agent) : p.FannedOut s agent := by
  have hblocked : p.handOver.blocked = false := (handOverOf_of_unblocked h p.pending).1
  have hlog := (departed_of_deliverer (p := p) hs).2
  refine ⟨⟨hlog, hblocked, rfl⟩, gained_of_deliverer h hs, fun m hm hon => ?_⟩
  have hcalls : p.flushCalls = [.flush] := by rw [flushCalls, hblocked]; rfl
  obtain ⟨hmirror, hfiles⟩ := deliver_asks hm agent
  rw [hcalls] at hmirror hfiles
  have hact : (m.act p.files .flush).mirror.sink = (m.sink.flush p.files).1.1 ∧
      (m.act p.files .flush).files = (m.sink.flush p.files).1.2 :=
        Mirror.sink_act hon p.files .flush
  refine ⟨_, hlog ▸ hmirror, hact.1, hlog ▸ hfiles.trans hact.2,
    fun d hd => ⟨d.flush.1, ?_, ?_⟩⟩
  · show (m.act p.files .flush).mirror.sink = .device d.flush.1
    rw [hact.1, hd]
    rfl
  · unfold Device.flush
    dsimp only
    split <;> exact ⟨rfl, rfl⟩

end Pipeline

namespace DrainLoop

def gained (d : DrainLoop) (t : Turn) : List Delivery :=
  (d.next t).log.deliveries.toList.drop d.log.deliveries.size

def received (place : Nat) (d : DrainLoop) (t : Turn) : List (List Entry) :=
  Delivery.heard place (d.gained t)

/-- The batch that is handed over in a turn: that which the worker took before, or one of somebody
else. -/
def batch? (d : DrainLoop) : Turn → Option (List Entry)
  | .worker => d.place.inHand.head?.filter (!·.isEmpty)
  | .others s => d.log.batch? s
  | _ => none

theorem gained_eq_toEach {d : DrainLoop} {turns : List Turn} (h : Unblocked d turns) (t : Turn) :
    d.gained t = Delivery.toEach d.log.subscribers (d.batch? t) := by
  have hgiven : d.gained t = (d.given t).flatMap Departure.deliveries := by
    rw [gained, next_deliveries, ← Array.length_toList, List.drop_left]
  cases t with
  | others s => exact Pipeline.gained_eq_toEach h.1 s
  | worker =>
    obtain ⟨flush, shutdown, calls, place, log⟩ := d
    rw [hgiven]
    cases place with
    | holding last batch =>
      have hover := (Pipeline.handOverOf_of_unblocked h.1 batch).2
      have hready :
          (given ⟨flush, shutdown, calls, .holding last batch, log⟩ .worker).flatMap
          Departure.deliveries =
          (log.handOverOf batch).deliveries :=
        (List.flatMap_singleton _ _).trans (log.deliveries_handOverOf batch).symm
      rw [hready, hover]
      cases batch with
      | nil => rfl
      | cons e es => exact (List.flatMap_singleton _ _).symm
    | _ => rfl
  | _ => exact hgiven

theorem subscribers_next (d : DrainLoop) (t : Turn) :
    d.log.subscribers <+: (d.next t).log.subscribers := by
  cases t with
  | worker => exact d.subscribers_work ▸ List.prefix_rfl
  | timeout => exact d.log_rouse ▸ List.prefix_rfl
  | call => exact d.log_call ▸ List.prefix_rfl
  | others s => exact (d.log.subscribers_perform s).symm ▸ List.prefix_append _ _
  | _ => exact List.prefix_rfl

theorem along_received {d : DrainLoop} {turns : List Turn} (h : Unblocked d turns) {place : Nat}
    (hplace : place < d.log.subscribers.length) :
    along (received place) d turns = along (fun d t => (d.batch? t).toList) d turns := by
  induction turns generalizing d with
  | nil => rfl
  | cons t turns ih =>
    have hlater : place < (d.next t).log.subscribers.length :=
      Nat.lt_of_lt_of_le hplace (d.subscribers_next t).length_le
    rw [along, along, received, gained_eq_toEach h, Delivery.heard_toEach hplace,
      ih (unblocked_next h) hlater]

end DrainLoop

namespace Pipeline

/-- At any moment of a run in which no subscriber blocks there are the subscribers that there were
and those that came, in this order. Whoever delivers then gets back how many entries were pending,
hands them to each of these subscribers once and in their order, if there are any, and flushes the
mirror once; nobody gets anything otherwise. From then on all of these subscribers get the same
batches, namely all that there are; so they do if others have their turns while the worker
delivers. -/
theorem fanned_out {p : Pipeline} {before after : List LogStep}
    (h : p.Unblocked (before ++ after)) :
    let q := p.after before
    q.subscribers = p.subscribers ++ before.flatMap LogStep.subscribed ∧
    (∀ s agent, s.deliverer? = some agent → q.FannedOut s agent) ∧
    (∀ s : LogStep, s.deliverer? = none → q.gained s = []) ∧
    (q.after after).deliveries.toList = q.deliveries.toList ++ along gained q after ∧
    (∀ i j, i < q.subscribers.length → j < q.subscribers.length →
      along (received i) q after = along (received j) q after ∧
      along (received i) q after = along (fun r s => (r.batch? s).toList) q after) ∧
    ∀ (d : DrainLoop) turns, DrainLoop.Unblocked d turns →
      ∀ i j, i < d.log.subscribers.length → j < d.log.subscribers.length →
        DrainLoop.along (DrainLoop.received i) d turns =
          DrainLoop.along (DrainLoop.received j) d turns ∧
        DrainLoop.along (DrainLoop.received i) d turns =
          DrainLoop.along (fun r t => (r.batch? t).toList) d turns := by
  intro q
  have hq : q.Unblocked after := h.after
  refine ⟨p.subscribers_after before, fun s agent => fannedOut hq.now,
    fun s => gained_of_not_delivering,
    q.deliveries_after_eq after, fun i j hi hj => ?_, fun d turns hd i j hi hj => ?_⟩
  · have hall := along_received hq hi
    exact ⟨hall.trans (along_received hq hj).symm, hall⟩
  · have hall := DrainLoop.along_received hd hi
    exact ⟨hall.trans (DrainLoop.along_received hd hj).symm, hall⟩

/-- One subscriber panics whatever it gets, another comes between two entries. A batch that the
worker took comes to both of them after the later one that somebody else delivers first. -/
theorem fanned_out_past_panics :
    let p : Pipeline := { subscribers := [⟨"a", fun _ => .panics⟩] }
    let entry (text : String) : Entry := ⟨0, .message, .description text⟩
    let before : List LogStep :=
      [.message .info "x", .subscribe ⟨"b", fun _ => .returns⟩, .message .info "y",
        .setMirror (some (.ofDevice {}))]
    let after : List LogStep :=
      [.deliver .caller, .message .info "z", .work { phase := .awake false }, .deliver .caller]
    let q := p.after before
    let d : DrainLoop := { place := .awake false, log := q }
    let turns : List DrainLoop.Turn :=
      [.worker, .others (.message .info "z"), .others (.deliver .caller), .worker, .worker]
    q.gained (.deliver .caller) = [⟨"a", [entry "x", entry "y"]⟩,
      ⟨"b", [entry "x", entry "y"]⟩] ∧
      along (received 0) q after = [[entry "x", entry "y"], [entry "z"]] ∧
      along (received 1) q after = [[entry "x", entry "y"], [entry "z"]] ∧
      (∃ m d, (q.perform (.deliver .caller)).mirror = some m ∧
        m.sink = .device d ∧ d.flushCalls = 1) ∧
      DrainLoop.along (DrainLoop.received 0) d turns = [[entry "z"], [entry "x", entry "y"]] ∧
      DrainLoop.along (DrainLoop.received 1) d turns = [[entry "z"], [entry "x", entry "y"]] := by
  intro p entry before after q d turns
  have hunblocked : p.Unblocked (before ++ after) := by
    refine ⟨fun s hs => ?_, fun s hs => ?_⟩
    · rw [List.mem_singleton.1 hs]
      exact fun _ => Reaction.noConfusion
    · obtain rfl : s = ⟨"b", fun _ => .returns⟩ := by simpa [before, after] using hs
      exact fun _ => Reaction.noConfusion
  have hturns : DrainLoop.Unblocked d turns :=
    ⟨hunblocked.after.now, fun s hs => by simp [turns] at hs⟩
  obtain ⟨-, hdelivers, -, -, hsteps, hthreads⟩ := fanned_out hunblocked
  have hdeliver : q.FannedOut (.deliver .caller) .caller := hdelivers _ _ rfl
  obtain ⟨m, hm, -, -, hflushed⟩ := hdeliver.flushes (.ofDevice {}) rfl rfl
  obtain ⟨flushed, hsink, hcalls, -⟩ := hflushed {} rfl
  obtain ⟨hboth, hall⟩ := hsteps 0 1 (by decide) (by decide)
  have hbatches : along (fun r s => (r.batch? s).toList) q after =
      [[entry "x", entry "y"], [entry "z"]] := by
    decide +kernel
  obtain ⟨hboth', hall'⟩ := hthreads d turns hturns 0 1 (by decide) (by decide)
  have hbatches' : DrainLoop.along (fun r t => (r.batch? t).toList) d turns =
      [[entry "z"], [entry "x", entry "y"]] := by
    decide +kernel
  exact ⟨hdeliver.hands.trans rfl, hall.trans hbatches, hboth.symm.trans (hall.trans hbatches),
    ⟨m, flushed, hm, hsink, hcalls⟩, hall'.trans hbatches',
      hboth'.symm.trans (hall'.trans hbatches')⟩

end Pipeline
end SocksGateway
