import SocksGateway.Gateway.Operation
import SocksGateway.Proofs.Engine.Proxies
import SocksGateway.Proofs.Gateway.History
import SocksGateway.Proofs.Log.Progress
import SocksGateway.Proofs.Policy.Revision

namespace SocksGateway

namespace DrainWorker

theorem stop_of_waiting {w : DrainWorker} (h : w.phase = .waiting) (log : Pipeline)
    (grace : Duration) :
    (w.stop log grace).1 = !(log.deliver .worker).blocked ∧
      ((w.stop log grace).1 = true →
        (w.stop log grace).2 = (log.deliver .worker).log.diagnose .debug
          "Log drain worker exited" .worker) := by
  obtain ⟨f, s, phase⟩ := w
  obtain rfl : phase = .waiting := h
  have hturn : (DrainWorker.mk f true .waiting).turn log =
      (DrainWorker.mk false true (afterDelivery true (log.deliver .worker))).step
        (log.deliver .worker).log := rfl
  unfold stop
  rw [requestShutdown, hturn, afterDelivery]
  cases (log.deliver .worker).blocked with
  | false => exact ⟨rfl, fun _ => rfl⟩
  | true => exact ⟨rfl, fun h => by cases h⟩

theorem blocker_of_blocked {log : Pipeline} {agent : Agent}
    (h : (log.deliver agent).blocked = true) :
    ∃ s ∈ log.subscribers, ¬ s.NeverBlocks := by
  by_contra hnone
  have hall : ∀ s ∈ log.subscribers, s.NeverBlocks :=
    fun s hs => by_contra fun hn => hnone ⟨s, hs, hn⟩
  have hfree : (log.deliver agent).blocked = false := by
    show log.handOver.blocked = false
    unfold Pipeline.handOver
    split
    · rfl
    · exact (HandOver.deliveries_run fun s hs => hall s hs _).2
  rw [hfree] at h
  cases h

theorem turn_of_waiting {w : DrainWorker} (h : w.phase = .waiting) (hs : w.shutdown = false)
    (log : Pipeline) :
    (w.requestFlush.turn log).1.shutdown = false ∧
      ((w.requestFlush.turn log).1.phase = .waiting ∨
        (w.requestFlush.turn log).1.phase = .stuck ∧
          ∃ s ∈ log.subscribers, ¬ s.NeverBlocks) := by
  obtain ⟨f, s, phase⟩ := w
  obtain rfl : phase = .waiting := h
  obtain rfl : s = false := hs
  have hturn : (DrainWorker.mk true false .waiting).turn log =
      (DrainWorker.mk false false (afterDelivery false (log.deliver .worker))).step
        (log.deliver .worker).log := rfl
  rw [requestFlush, hturn, afterDelivery]
  cases hb : (log.deliver .worker).blocked with
  | false => exact ⟨rfl, .inl rfl⟩
  | true => exact ⟨rfl, .inr ⟨rfl, blocker_of_blocked hb⟩⟩

theorem turn_of_stuck {w : DrainWorker} (h : w.phase = .stuck) (log : Pipeline) :
    w.requestFlush.turn log = (w.requestFlush, log) := by
  obtain ⟨f, s, phase⟩ := w
  obtain rfl : phase = .stuck := h
  rfl

theorem stop_of_stuck {w : DrainWorker} (h : w.phase = .stuck) (log : Pipeline) (grace : Duration) :
    (w.stop log grace).1 = false := by
  obtain ⟨f, s, phase⟩ := w
  obtain rfl : phase = .stuck := h
  rfl

end DrainWorker

namespace DrainWorker

theorem subscribers_steps (n : Nat) (w : DrainWorker) (log : Pipeline) :
    (steps n w log).2.subscribers = log.subscribers := by
  induction n generalizing w log with
  | zero => rfl
  | succ n ih => exact (ih _ _).trans (w.subscribers_step log)

theorem subscribers_stop (w : DrainWorker) (log : Pipeline) (grace : Duration) :
    (w.stop log grace).2.subscribers = log.subscribers := by
  unfold stop
  dsimp only
  split
  · exact subscribers_steps 3 w.requestShutdown log
  · exact subscribers_steps 3 w.requestShutdown log

end DrainWorker

theorem Gateway.subscribers_endWorker (worker : Option DrainWorker) (log : Pipeline) :
    (endWorker worker log).subscribers = log.subscribers := by
  unfold endWorker
  split
  · rfl
  next w =>
    dsimp only
    split
    · exact w.subscribers_stop log grace
    · exact w.subscribers_stop log grace

namespace Engine

/-- These are the subscribers that hear of what happens. -/
def Hears (ss : List Subscriber) (e : Engine) : Prop := e.log.subscribers = ss

variable {ss : List Subscriber} {e : Engine}

theorem Hears.append (h : Hears ss e) (level : Level) (event : EventKind) (payload : Payload) :
    Hears ss (e.append level event payload) :=
  (e.log.subscribers_append level event payload).trans h

theorem Hears.message (h : Hears ss e) (level : Level) (text : String) :
    Hears ss (e.message level text) :=
  h.append level .message (.description text)

theorem Hears.note (h : Hears ss e) (text : String) : Hears ss (e.note text) := by
  rw [note_eq]
  exact h.message .debug text

theorem Hears.register (h : Hears ss e) (endpoint : String) (protocols : ProtocolMask)
    (credentials : Option Credentials) (autostart : Bool) :
    Hears ss (e.register endpoint protocols credentials autostart).2 := by
  unfold Engine.register
  split
  · exact h
  next address _ =>
    let named : Engine :=
      { e with registry := e.registry.insert address credentials protocols autostart }
    exact Hears.message (e := named.diagnose .info _) h .info _

theorem Hears.startProxy (h : Hears ss e) (k : Handle) : Hears ss (e.startProxy k).2 := by
  unfold Engine.startProxy
  split
  · exact h
  next p _ =>
    split
    · exact h
    split
    · exact Hears.append (e := Engine.diagnose { e.call _ with registry := _ } .info _) h
        .info .connected _
    · exact Hears.message (e := (e.call _).diagnose .error _) h .error _

theorem Hears.addProxy (h : Hears ss e) (endpoint : String) (protocols : ProtocolMask)
    (credentials : Option Credentials) (start : Bool) :
    Hears ss (e.addProxy endpoint protocols credentials start).2 :=
  addProxy_keeps (fun _ endpoint protocols credentials autostart h =>
    h.register endpoint protocols credentials autostart) (fun _ k h =>
      h.startProxy k) h endpoint protocols
    credentials start

theorem Hears.stopProxy (h : Hears ss e) (p : Proxy) : Hears ss (e.stopProxy p) :=
  Hears.append (e := Engine.diagnose { e.call _ with registry := _ } .debug _)
    h .info .disconnected _

theorem Hears.change (h : Hears ss e) (c : RuleChange) : Hears ss (e.change c).2 := by
  cases hr : e.revised c with
  | ok r =>
    obtain ⟨text, hc⟩ := change_of_revised_ok hr
    rw [hc]
    exact Hears.message (e := Engine.diagnose { e with policy := _ } .debug text) h .info text
  | error error =>
    rw [change_of_revised_error hr]
    exact h

theorem Hears.foldl_diagnose {α : Type} (h : Hears ss e) (severity : Severity)
    (text : α → String) (as : List α) :
    Hears ss (as.foldl (fun e a => e.diagnose severity (text a)) e) := by
  induction as generalizing e with
  | nil => exact h
  | cons a as ih => exact ih (e := e.diagnose severity (text a)) h

end Engine

namespace Gateway

/-- A started gateway has a worker. Between two calls the worker waits, unless a subscriber holds it
up. -/
structure Attended (g : Gateway) : Prop where
  started : g.stage = .started → ∃ w, g.worker = some w
  unasked : ∀ w, g.worker = some w → w.shutdown = false
  phase : ∀ w, g.worker = some w → w.phase = .waiting ∨
    w.phase = .stuck ∧ ∃ s ∈ g.log.subscribers, ¬ s.NeverBlocks

theorem attended_of_build {o : Origin} {relay : Relay} {files : FileTree} {g : Gateway}
    (hg : o.build relay files = .ok g) : g.Attended := by
  have hfresh : g.stage = .created ∧ g.worker = none := by
    cases o with
    | options o => cases hg; exact ⟨rfl, rfl⟩
    | config c =>
      obtain ⟨-, m, e, hm, -, rfl⟩ := ofConfig_eq_ok hg
      obtain ⟨log, rfl⟩ := mirrored_eq_ok hm
      exact ⟨rfl, rfl⟩
  refine ⟨fun h => ?_, fun w h => ?_, fun w h => ?_⟩
  · rw [hfresh.1] at h; cases h
  · rw [hfresh.2] at h; cases h
  · rw [hfresh.2] at h; cases h

theorem Attended.congr {g g' : Gateway} (ha : g.Attended) (hs : g'.stage = g.stage)
    (hw : g'.worker = g.worker) (hsub : g.log.subscribers ⊆ g'.log.subscribers) :
    g'.Attended := by
  refine ⟨fun h => ?_, fun w h => ha.unasked w (hw ▸ h), fun w h => ?_⟩
  · rw [hw]
    exact ha.started (hs ▸ h)
  · rcases ha.phase w (hw ▸ h) with hp | ⟨hp, s, hm, hb⟩
    · exact .inl hp
    · exact .inr ⟨hp, s, hsub hm, hb⟩

theorem hears_start {g : Gateway} {ss : List Subscriber} (h : Engine.Hears ss g.toEngine) :
    Engine.Hears ss g.start.2.toEngine := by
  unfold start
  split
  · exact h
  · let e : Engine := { g.toEngine with log := (DrainWorker.spawn g.log).2 }
    have hp : Engine.Hears ss (e.diagnose .info (startText e)).startPending.2 :=
      Engine.startEach_keeps (e := e.diagnose .info (startText e)) (fun _ k h => h.startProxy k) h _
    exact (hp.foldl_diagnose .warn _ _).message .info _

theorem hears_tearDown {e : Engine} {ss : List Subscriber} (h : Engine.Hears ss e) :
    Engine.Hears ss (tearDown e) := by
  have hdown : Engine.Hears ss e.stopAll.2 := Engine.stopAll_keeps (fun _ p h => h.stopProxy p) h
  exact hdown.message .info _

theorem hears_stop {g : Gateway} {ss : List Subscriber} (h : Engine.Hears ss g.toEngine) :
    Engine.Hears ss g.stop.toEngine := by
  unfold stop
  split
  · exact (subscribers_endWorker g.worker (tearDown g.toEngine).log).trans (hears_tearDown h)
  · exact h

end Gateway

def Operation.subscribes : Operation → List Subscriber
  | subscribe s => [s]
  | _ => []

namespace Gateway

theorem subscribers_flush (g : Gateway) : g.flush.log.subscribers = g.log.subscribers := by
  unfold flush
  split
  · rfl
  next w _ => exact w.requestFlush.subscribers_steps 3 g.log

theorem subscribers_perform (g : Gateway) (op : Operation) :
    (g.perform op).2.log.subscribers = g.log.subscribers ++ op.subscribes := by
  cases op with
  | subscribe s => rfl
  | start => exact (hears_start rfl).trans (List.append_nil _).symm
  | stop => exact (hears_stop rfl).trans (List.append_nil _).symm
  | addProxy endpoint protocols credentials start =>
    have h : Engine.Hears g.log.subscribers g.toEngine := rfl
    exact (h.addProxy endpoint protocols credentials start).trans (List.append_nil _).symm
  | change c => exact (Engine.Hears.change rfl c).trans (List.append_nil _).symm
  | setLanBypass enabled => exact (g.log.subscribers_append _ _ _).trans (List.append_nil _).symm
  | decide process destination protocol =>
    have h : Engine.Hears g.log.subscribers g.toEngine := rfl
    exact (Engine.Hears.note (e := g.toEngine.diagnose .debug _) h _).trans (List.append_nil _).symm
  | report event payload => exact (g.log.subscribers_append _ _ _).trans (List.append_nil _).symm
  | flush => exact g.subscribers_flush.trans (List.append_nil _).symm
  | setLogMirror path =>
    refine Eq.trans ?_ (List.append_nil _).symm
    simp only [perform, mirrorTo]
    cases hm : g.log.mirrorTo path with
    | ok log => exact Pipeline.subscribers_mirrorTo hm
    | error error => rfl
  | _ => exact (List.append_nil _).symm

theorem attended_start {g : Gateway} (ha : g.Attended) : g.start.2.Attended := by
  unfold start
  split
  · exact ha
  · refine ⟨fun _ => ⟨_, rfl⟩, fun w h => ?_, fun w h => ?_⟩
    · cases h; rfl
    · cases h; exact .inl rfl

theorem attended_stop {g : Gateway} (ha : g.Attended) : g.stop.Attended := by
  unfold stop
  split
  · refine ⟨fun (h : Stage.stopped = .started) => ?_, fun w (h : none = some w) => ?_,
      fun w (h : none = some w) => ?_⟩ <;> cases h
  · exact ha

theorem attended_flush {g : Gateway} (ha : g.Attended) : g.flush.Attended := by
  unfold flush
  split
  · exact ha
  next w hw =>
    have hsub := w.requestFlush.subscribers_steps 3 g.log
    have hs := ha.unasked w hw
    have hturn : (w.requestFlush.turn g.log).1.shutdown = false ∧
        ((w.requestFlush.turn g.log).1.phase = .waiting ∨
          (w.requestFlush.turn g.log).1.phase = .stuck ∧
            ∃ s ∈ g.log.subscribers, ¬ s.NeverBlocks) := by
      rcases ha.phase w hw with hp | ⟨hp, hb⟩
      · exact DrainWorker.turn_of_waiting hp hs g.log
      · rw [DrainWorker.turn_of_stuck hp]
        exact ⟨hs, .inr ⟨hp, hb⟩⟩
    refine ⟨fun _ => ⟨_, rfl⟩, fun w' h => ?_, fun w' h => ?_⟩
    · cases h
      exact hturn.1
    · cases h
      rcases hturn.2 with hp | ⟨hp, s, hm, hb⟩
      · exact .inl hp
      · exact .inr ⟨hp, s, hsub ▸ hm, hb⟩

theorem attended_perform {g : Gateway} (ha : g.Attended) (op : Operation) :
    (g.perform op).2.Attended := by
  have hsub : g.log.subscribers ⊆ (g.perform op).2.log.subscribers := by
    rw [subscribers_perform]
    exact List.subset_append_left _ _
  cases op with
  | start => exact attended_start ha
  | stop => exact attended_stop ha
  | flush => exact attended_flush ha
  | setLogMirror path =>
    simp only [perform, mirrorTo] at hsub ⊢
    cases hm : g.log.mirrorTo path with
    | ok log => rw [hm] at hsub; exact ha.congr rfl rfl hsub
    | error error => exact ha
  | _ => exact ha.congr rfl rfl hsub

theorem attended_run {g : Gateway} (ha : g.Attended) (ops : List Operation) :
    (g.run ops).2.Attended := by
  induction ops generalizing g with
  | nil => exact ha
  | cons op ops ih => exact ih (attended_perform ha op)

theorem subscribers_mirrored {g m : Gateway} {path : Option String} (h : g.mirrored path = .ok m) :
    m.log.subscribers = g.log.subscribers := by
  cases path with
  | none => cases h; rfl
  | some path =>
    simp only [mirrored, mirrorTo] at h
    cases hm : g.log.mirrorTo path with
    | ok log => rw [hm] at h; cases h; exact Pipeline.subscribers_mirrorTo hm
    | error error => rw [hm] at h; cases h

theorem subscribers_of_build {o : Origin} {relay : Relay} {files : FileTree} {g : Gateway}
    (hg : o.build relay files = .ok g) : g.log.subscribers = [] := by
  cases o with
  | options o => cases hg; rfl
  | config c =>
    obtain ⟨-, m, e, hm, he, rfl⟩ := ofConfig_eq_ok hg
    have hstart : Engine.Hears [] m.toEngine := subscribers_mirrored hm
    exact Engine.applyConfig_keeps (fun _ endpoint protocols credentials autostart h =>
      h.register endpoint protocols credentials autostart) (fun _ c h => h.change c) hstart he

theorem subscribers_run (g : Gateway) (ops : List Operation) :
    (g.run ops).2.log.subscribers = g.log.subscribers ++ ops.flatMap Operation.subscribes := by
  induction ops generalizing g with
  | nil => exact (List.append_nil _).symm
  | cons op ops ih =>
    rw [List.flatMap_cons, ← List.append_assoc, ← subscribers_perform]
    exact ih _

end Gateway
end SocksGateway
