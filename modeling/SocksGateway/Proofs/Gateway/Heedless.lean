import SocksGateway.Proofs.Engine.Heedless

namespace SocksGateway

/-- The answer to such a call, and what it makes of the proxies, depend neither on the log nor on
the rules. -/
def Operation.heedless : Operation → Bool
  | change _ => false
  | decide _ _ _ => false
  | report _ _ => false
  | readLog => false
  | setLogMirror _ => false
  | _ => true

namespace Gateway

/-- Gateways that look alike but for their logs and their workers, through a view of their
tables. -/
structure SameThrough (view : PolicyTable → PolicyTable) (g g' : Gateway) : Prop where
  engine : g.toEngine.viewed view = g'.toEngine.viewed view
  stage : g.stage = g'.stage

namespace SameThrough

variable {view : PolicyTable → PolicyTable} {g g' : Gateway} (h : SameThrough view g g')
include h

theorem start : g.start.1 = g'.start.1 ∧ SameThrough view g.start.2 g'.start.2 := by
  by_cases hs : g.stage = .started
  · rw [start_of_started hs, start_of_started (h.stage.symm.trans hs)]
    exact ⟨rfl, h⟩
  · have hspawned : ({ g.toEngine with log := (DrainWorker.spawn g.log).2 } : Engine).viewed view =
        ({ g'.toEngine with log := (DrainWorker.spawn g'.log).2 } : Engine).viewed view := h.engine
    have hup := Engine.heedless_bringUp.congr hspawned
    rw [Gateway.start, Gateway.start, if_neg hs, if_neg (fun hs' => hs (h.stage.trans hs'))]
    exact ⟨congrArg Except.ok hup.1, hup.2, rfl⟩

theorem stop : SameThrough view g.stop g'.stop := by
  by_cases hs : g.stage = .started
  · have hdown := (Engine.heedless_tearDown.congr h.engine).2
    rw [Gateway.stop, Gateway.stop, if_pos hs, if_pos (h.stage.symm.trans hs)]
    exact ⟨hdown, rfl⟩
  · rw [stop_of_ne hs, stop_of_ne fun hs' => hs (h.stage.trans hs')]
    exact h

theorem flush : SameThrough view g.flush g'.flush := by
  have hflush : ∀ g : Gateway, g.flush.toEngine.viewed view = g.toEngine.viewed view ∧
      g.flush.stage = g.stage := by
    intro g
    unfold Gateway.flush
    split <;> exact ⟨rfl, rfl⟩
  obtain ⟨hengine, hstage⟩ := hflush g
  obtain ⟨hengine', hstage'⟩ := hflush g'
  exact ⟨(hengine.trans h.engine).trans hengine'.symm,
    (hstage.trans h.stage).trans hstage'.symm⟩

theorem perform {op : Operation} (hop : op.heedless = true) :
    (g.perform op).1 = (g'.perform op).1 ∧
      SameThrough view (g.perform op).2 (g'.perform op).2 := by
  cases op with
  | start =>
    obtain ⟨hanswer, hsame⟩ := h.start
    exact ⟨congrArg (Except.map Answer.failures) hanswer, hsame⟩
  | stop => exact ⟨rfl, h.stop⟩
  | addProxy endpoint protocols credentials start =>
    obtain ⟨hanswer, hengine⟩ :=
      (Engine.heedless_addProxy endpoint protocols credentials start).congr h.engine
    exact ⟨congrArg (Except.map Answer.handle) hanswer, hengine, h.stage⟩
  | setLanBypass enabled =>
    have hlan : (g.setLanBypass enabled).viewed view = (g'.setLanBypass enabled).viewed view :=
      congrArg (fun e : Engine => { e with lan := ⟨enabled⟩ }) h.engine
    exact ⟨rfl, hlan, h.stage⟩
  | flush => exact ⟨rfl, h.flush⟩
  | change c => cases hop
  | decide process destination protocol => cases hop
  | report event payload => cases hop
  | readLog => cases hop
  | setLogMirror path => cases hop
  | _ => exact ⟨rfl, h.engine, h.stage⟩

end SameThrough
end Gateway
end SocksGateway
