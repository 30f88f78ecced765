import SocksGateway.Proofs.Gateway.Attendance
import SocksGateway.Proofs.Gateway.Namesake

namespace SocksGateway

theorem DrainWorker.work_retold {p q : Pipeline} (h : p.Retold q) (n : Nat) (w : DrainWorker) :
    work n w p = work n w q := by
  induction n generalizing w p q with
  | zero => rfl
  | succ n ih =>
    obtain ⟨hworker, hlog⟩ := h.step w
    rw [work, work, ← hworker, ih hlog]

namespace Gateway

open Answer (seen)

/-- Gateways with the same worker, and with logs that differ in words only. -/
structure Retold (g g' : Gateway) : Prop where
  log : g.log.Retold g'.log
  worker : g.worker = g'.worker

section
variable {g g' : Gateway} (h : g.Namesake g')
include h

theorem tearDownSteps_respelled : g.tearDownSteps = g'.tearDownSteps :=
  Engine.eq_of_viewed (f := (·.tearDownSteps)) (fun _ => rfl) h.engine

variable (hr : g.Retold g')
include hr

theorem tearDown_retold : (tearDown g.toEngine).log.Retold (tearDown g'.toEngine).log := by
  have hsteps := congrArg (List.map LogStep.wordless) (tearDownSteps_respelled h)
  have hsubscribers : (tearDown g.toEngine).log.subscribers = g.log.subscribers :=
    hears_tearDown rfl
  refine hr.log.of_leads g.leads_tearDown g'.leads_tearDown hsteps ?_
  rw [hsubscribers]
  exact hr.log.unread

theorem logSteps_retold {op : Operation} (hop : op.process? = none) :
    (g.logSteps op).map LogStep.wordless = (g'.logSteps op).map LogStep.wordless := by
  refine congrArg (List.map LogStep.wordless) ?_
  cases op with
  | start =>
    have hattempts : g.attempts = g'.attempts :=
      Engine.eq_of_viewed (f := (·.attempts)) (fun _ => rfl) h.engine
    rw [logSteps, logSteps, h.stage, hattempts]
  | stop =>
    have hend : endSteps g.worker (tearDown g.toEngine).log =
        endSteps g'.worker (tearDown g'.toEngine).log := by
      rw [← hr.worker]
      unfold endSteps
      cases g.worker with
      | none => rfl
      | some w => exact DrainWorker.work_retold (tearDown_retold h hr) 3 w.requestShutdown
    rw [logSteps, logSteps, h.stage, tearDownSteps_respelled h, hend]
  | addProxy endpoint protocols credentials start =>
    exact Engine.addSteps_of_viewed h.engine endpoint protocols credentials start
  | flush =>
    rw [logSteps, logSteps, ← hr.worker]
    cases g.worker with
    | none => rfl
    | some w => exact DrainWorker.work_retold hr.log 3 w.requestFlush
  | change c => cases hop
  | decide process destination protocol => cases hop
  | _ => rfl

theorem stepsOf_retold {x x' : Occurrence} (hx : x.Respelled x') :
    (g.stepsOf x).map LogStep.wordless = (g'.stepsOf x').map LogStep.wordless := by
  cases hx with
  | building hs =>
    cases hs with
    | mirror path => rfl
    | register hs =>
      obtain ⟨processes, -, rfl⟩ := hs
      exact congrArg (List.map LogStep.wordless)
        (Engine.eq_of_viewed (f := (·.registerSteps _ _)) (fun _ => rfl) h.engine)
    | change hc => exact Engine.changeSteps_respelled h.engine hc.plain_eq
  | call hop =>
    cases hop with
    | nameless hnone => exact logSteps_retold h hr hnone
    | change hc => exact Engine.changeSteps_respelled h.engine hc.plain_eq
    | decide hpq destination protocol => rfl
  | log worker hs => rfl

theorem worker_perform_retold {op op' : Operation} (hop : op.Respelled op') :
    (g.perform op).2.worker = (g'.perform op').2.worker := by
  cases hop with
  | nameless hnone =>
    cases op with
    | start =>
      show g.start.2.worker = g'.start.2.worker
      rw [start, start, h.stage]
      split
      · exact hr.worker
      · rfl
    | stop =>
      show g.stop.worker = g'.stop.worker
      rw [stop, stop, h.stage]
      split
      · rfl
      · exact hr.worker
    | flush =>
      show g.flush.worker = g'.flush.worker
      rw [flush, flush, ← hr.worker]
      cases hw : g.worker with
      | none => exact hw.trans (hw.symm.trans hr.worker)
      | some w => exact congrArg some (DrainWorker.steps_retold hr.log 3 w.requestFlush).1
    | setLogMirror path =>
      have hkept : ∀ g : Gateway, (g.perform (.setLogMirror path)).2.worker = g.worker := by
        intro g
        rw [perform, mirrorTo]
        cases g.log.mirrorTo path <;> rfl
      rw [hkept, hkept, hr.worker]
    | _ => exact hr.worker
  | change hc => exact hr.worker
  | decide hpq destination protocol => exact hr.worker

theorem retold_meet {x x' : Occurrence} (hx : x.Respelled x')
    (hread : ∀ s ∈ (g.meet x).log.subscribers, s.IgnoresWords) :
    (g.meet x).Retold (g'.meet x') := by
  refine ⟨hr.log.of_leads (g.leads_meet x) (g'.leads_meet x') (stepsOf_retold h hr hx) hread,
    ?_⟩
  cases hx with
  | building hs =>
    have hkept : ∀ (g : Gateway) s, (g.take s).2.worker = g.worker := by
      intro g s
      cases s with
      | mirror path =>
        rw [take, mirrorTo]
        cases g.log.mirrorTo path <;> rfl
      | _ => rfl
    exact ((hkept g _).trans hr.worker).trans (hkept g' _).symm
  | call hop => exact worker_perform_retold h hr hop
  | log worker hs => rfl

end

theorem retold_lived {g g' : Gateway} (h : g.Namesake g') (hr : g.Retold g')
    {xs ys : List Occurrence} (hxs : List.Forall₂ Occurrence.Respelled xs ys)
    (hread : ∀ s ∈ (g.lived xs).log.subscribers, s.IgnoresWords) :
    (g.lived xs).Retold (g'.lived ys) ∧
      (g.replies xs).map (seen Answer.wordless) = (g'.replies ys).map (seen Answer.wordless) := by
  induction hxs generalizing g g' with
  | nil => exact ⟨hr, rfl⟩
  | @cons x x' xs ys hx _ ih =>
    have hlater : (g.meet x).log.subscribers ⊆ (g.lived (x :: xs)).log.subscribers :=
      ((g.meet x).leads_lived xs).subscribers_subset
    obtain ⟨hlast, hreplies⟩ :=
      ih (namesake_meet h hx) (retold_meet h hr hx fun s hs => hread s (hlater hs)) hread
    refine ⟨hlast, ?_⟩
    cases hx with
    | building hs => exact hreplies
    | call hop =>
      have hpending : Answer.wordless (.entries g.log.pending) =
          Answer.wordless (.entries g'.log.pending) :=
        congrArg Answer.entries hr.log.pending_eq
      exact congrArg₂ List.cons (perform_respelled h hop Answer.wordless hpending).1 hreplies
    | log worker hs => exact hreplies

end Gateway
end SocksGateway
