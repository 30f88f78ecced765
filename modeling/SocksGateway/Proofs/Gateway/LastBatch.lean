import SocksGateway.Proofs.Gateway.Attendance
import SocksGateway.Proofs.Log.Gains

namespace SocksGateway

theorem HandOver.deliveries_of_not_blocked {batch : List Entry} {ss : List Subscriber}
    (h : (run batch ss).blocked = false) :
    (run batch ss).deliveries = ss.map (⟨·.name, batch⟩) := by
  induction ss with
  | nil => rfl
  | cons s ss ih =>
    unfold run at h ⊢
    split at h
    next => exact congrArg _ (ih h)
    next => exact congrArg _ (ih h)
    next => cases h

namespace Engine

def parting (e : Engine) (p : Proxy) : List Entry :=
  e.log.arriving .info .disconnected (handleData p.handle)

theorem gains_stopProxy (e : Engine) (p : Proxy) : e.log.Gains (e.parting p) (e.stopProxy p).log :=
  (Pipeline.Gains.remark e.log .debug ("Proxy " ++ p.handle.toText ++ " stopped")).trans
    (Pipeline.gains_append _ .info .disconnected (handleData p.handle))

theorem gains_stopEach (e : Engine) (ps : List Proxy) :
    e.log.Gains (ps.flatMap e.parting) (ps.foldl stopProxy e).log := by
  induction ps generalizing e with
  | nil => exact .refl e.log
  | cons p ps ih =>
    have hp := e.gains_stopProxy p
    have hps : (e.stopProxy p).parting = e.parting := by
      funext q
      exact hp.arriving .info .disconnected (handleData q.handle)
    have hrest := ih (e.stopProxy p)
    rw [hps] at hrest
    exact hp.trans hrest

end Engine

namespace Gateway

def stoppedText (e : Engine) : String :=
  "Gateway stopped, " ++ toString e.registry.running.length ++ " proxies torn down"

/-- What a stop says in the log while the worker still reads it. -/
def farewell (e : Engine) : List Entry :=
  e.registry.running.flatMap e.parting ++
    e.log.arriving .info .message (.description (stoppedText e))

theorem gains_tearDown (e : Engine) : e.log.Gains (farewell e) (tearDown e).log := by
  have hstop := e.gains_stopEach e.registry.running
  have hsay := hstop.arriving .info .message (.description (stoppedText e))
  exact hstop.trans (hsay ▸ Pipeline.gains_append _ .info .message (.description (stoppedText e)))

/-- The newest of what waits and of what the stop says, as many as there is room for. -/
def lastBatch (g : Gateway) : List Entry :=
  (g.log.pending ++ farewell g.toEngine).drop
    ((g.log.pending ++ farewell g.toEngine).length - g.log.limit)

def lastDeliveries (g : Gateway) : List Delivery :=
  if g.lastBatch.isEmpty then [] else g.log.subscribers.map (⟨·.name, g.lastBatch⟩)

def acknowledges (g : Gateway) (w : DrainWorker) : Bool :=
  (w.stop (tearDown g.toEngine).log grace).1

theorem log_stop {g : Gateway} (h : g.stage = .started) :
    g.stop.log = (endWorker g.worker (tearDown g.toEngine).log).diagnose .info
      "Gateway stopped" := by
  rw [stop, if_pos h]
  rfl

theorem deliveries_of_not_blocked {p : Pipeline} {agent : Agent}
    (h : (p.deliver agent).blocked = false) :
    (p.deliver agent).log.deliveries.toList =
      p.deliveries.toList ++ if p.pending.isEmpty then []
        else p.subscribers.map (⟨·.name, p.pending⟩) := by
  rw [Pipeline.deliveries_deliver, ← Pipeline.deliveries_handOver]
  change p.handOver.blocked = false at h
  unfold Pipeline.handOver at h ⊢
  split at h
  next he => rw [if_pos he, if_pos he]
  next he => rw [if_neg he, if_neg he, HandOver.deliveries_of_not_blocked h]

theorem stop_of_acknowledged {g : Gateway} {w : DrainWorker} (hs : g.stage = .started)
    (hw : g.worker = some w) (hp : w.phase = .waiting) (h : g.acknowledges w = true) :
    g.stop.log.pending = [] ∧
      g.stop.log.deliveries.toList = g.log.deliveries.toList ++ g.lastDeliveries := by
  obtain ⟨hack, hlog⟩ := DrainWorker.stop_of_waiting hp (tearDown g.toEngine).log grace
  have hgains := gains_tearDown g.toEngine
  have hfree : ((tearDown g.toEngine).log.deliver .worker).blocked = false :=
    (Bool.not_eq_true' _).mp (hack.symm.trans h)
  have hend : endWorker g.worker (tearDown g.toEngine).log =
      ((tearDown g.toEngine).log.deliver .worker).log.diagnose .debug
        "Log drain worker exited" .worker := by
    rw [hw, ← hlog h]
    exact if_pos h
  have hbatch : (tearDown g.toEngine).log.pending = g.lastBatch := hgains.pending_eq
  rw [log_stop hs, hend]
  refine ⟨Pipeline.pending_deliver _ _, (deliveries_of_not_blocked hfree).trans ?_⟩
  rw [hgains.deliveries, hgains.subscribers, hbatch]
  rfl

theorem acknowledges_of_unblocked {g : Gateway} {w : DrainWorker} (hp : w.phase = .waiting)
    (hb : ∀ s ∈ g.log.subscribers, s.NeverBlocks) : g.acknowledges w = true := by
  refine (DrainWorker.stop_of_waiting hp (tearDown g.toEngine).log grace).1.trans ?_
  cases hblocked : ((tearDown g.toEngine).log.deliver .worker).blocked with
  | false => rfl
  | true =>
    obtain ⟨s, hs, hn⟩ := DrainWorker.blocker_of_blocked hblocked
    rw [(gains_tearDown g.toEngine).subscribers] at hs
    exact absurd (hb s hs) hn

theorem last_batch_of_attended {g : Gateway} (ha : g.Attended) (hs : g.stage = .started) :
    ∃ w, g.worker = some w ∧
      (g.acknowledges w = true →
        g.stop.log.pending = [] ∧ g.stop.log.deliveries.toList =
          g.log.deliveries.toList ++ g.lastDeliveries) ∧
      ((∀ s ∈ g.log.subscribers, s.NeverBlocks) → g.acknowledges w = true) := by
  obtain ⟨w, hw⟩ := ha.started hs
  refine ⟨w, hw, fun h => ?_, fun hb => ?_⟩
  · rcases ha.phase w hw with hp | ⟨hp, -⟩
    · exact stop_of_acknowledged hs hw hp h
    · rw [acknowledges, DrainWorker.stop_of_stuck hp] at h
      cases h
  · rcases ha.phase w hw with hp | ⟨-, s, hm, hn⟩
    · exact acknowledges_of_unblocked hp hb
    · exact absurd (hb s hm) hn

/-- However its turns fall among those of the others, a worker loses neither a request nor a last
batch, and takes no entry twice. The gateway's worker is such a worker, left to itself while it
takes its steps; so a stop that the worker acknowledges, as it does if no subscriber blocks, leaves
nothing in the log, and what was there went to every subscriber in one batch. -/
theorem worker_loses_nothing :
    (∀ (log : Pipeline) (turns : List DrainLoop.Turn),
      DrainLoop.LosesNothing log turns ((DrainLoop.spawned log).after turns)) ∧
    (∀ (w : DrainWorker) (log : Pipeline), ∃ turns,
      (∀ t ∈ turns, t = .worker ∨ t = .timeout) ∧
      (DrainLoop.ofWorker w log).after turns = DrainLoop.ofWorker (w.step log).1 (w.step log).2) ∧
    ∀ {o : Origin} {relay : Relay} {files : FileTree} {g : Gateway},
      o.build relay files = .ok g →
      ∀ ops : List Operation, (g.run ops).2.stage = .started →
        ∃ w, (g.run ops).2.worker = some w ∧
        ((g.run ops).2.acknowledges w = true →
          (g.run ops).2.stop.log.pending = [] ∧
          (g.run ops).2.stop.log.deliveries.toList =
            (g.run ops).2.log.deliveries.toList ++ (g.run ops).2.lastDeliveries) ∧
        ((∀ s, .subscribe s ∈ ops → s.NeverBlocks) →
          (g.run ops).2.acknowledges w = true) := by
  refine ⟨DrainLoop.losesNothing, DrainLoop.step_eq_after, fun hg ops hs => ?_⟩
  obtain ⟨w, hw, hstop, hack⟩ :=
    last_batch_of_attended (attended_run (attended_of_build hg) ops) hs
  refine ⟨w, hw, hstop, fun hb => hack fun s hm => ?_⟩
  rw [subscribers_run, subscribers_of_build hg, List.nil_append, List.mem_flatMap] at hm
  obtain ⟨op, hop, hm⟩ := hm
  cases op with
  | subscribe x =>
    cases List.mem_singleton.1 hm
    exact hb s hop
  | _ => cases hm

theorem worker_loses_nothing_once_asked :
    let say (text : String) : DrainLoop.Turn := .others (.message .info text)
    let entry (text : String) : Entry := ⟨0, .message, .description text⟩
    let asleep : List DrainLoop.Turn := [.worker, say "a"]
    let d := ((DrainLoop.spawned {}).after asleep).next .requestFlush
    let working : List DrainLoop.Turn := [say "b"] ++ List.replicate 10 .worker
    let ending := asleep ++ .requestShutdown :: .call :: working
    let g := ((create {} .accepting {}).run [.start, .subscribe { name := "reader" }]).2
    [DrainLoop.Mark.begins, .completes].Sublist ((d.next .call).marks working) ∧
    [entry "a"] <+: (DrainLoop.along DrainLoop.departed (DrainLoop.spawned {}) ending).flatMap
      Departure.entries ∧
    g.stop.log.pending = [] ∧
    g.stop.log.deliveries.toList = [⟨"reader",
      [entry "Gateway started (0 proxy start failures)",
        entry "Gateway stopped, 0 proxies torn down"]⟩] := by
  intro say entry asleep d working ending g
  obtain ⟨hworker, -, hgateway⟩ := worker_loses_nothing
  have hquiet :
      (DrainLoop.spawned {}).Unblocked ((asleep ++ [.requestFlush, .call]) ++ working) := by
    refine ⟨fun s hs => ?_, fun s hs => ?_⟩
    · cases hs
    · simp [asleep, working, say] at hs
  have hdelivers :=
    (hworker {} (asleep ++ [.requestFlush, .call])).delivers working hquiet
    rfl rfl nofun (by decide)
  have hemptied :=
    (hworker {} ending).emptied asleep (.call :: working) rfl (by simp [asleep, say]) rfl
  obtain ⟨w, -, hstop, hack⟩ :=
    hgateway (o := .options {}) rfl [.start, .subscribe { name := "reader" }] rfl
  have hended : g.acknowledges w = true := by
    refine hack fun s hs batch => ?_
    obtain rfl : s = { name := "reader" } := by simpa using hs
    exact nofun
  obtain ⟨hpending, hdeliveries⟩ := hstop hended
  refine ⟨hdelivers, hemptied, hpending, hdeliveries.trans ?_⟩
  decide +kernel

end Gateway
end SocksGateway
