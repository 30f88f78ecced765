import Mathlib.Data.List.Induction
import SocksGateway.Proofs.Engine.Running
import SocksGateway.Proofs.Gateway.History

namespace SocksGateway

namespace Engine

structure Untouched (e : Engine) : Prop where
  calls : e.calls = #[]
  isUp : ∀ h, e.registry.isUp h = false

theorem Untouched.register {e : Engine} (hu : e.Untouched) (endpoint : String)
    (protocols : ProtocolMask) (credentials : Option Credentials) (autostart : Bool) :
    (e.register endpoint protocols credentials autostart).2.Untouched := by
  cases hp : Endpoint.ofProxyText? endpoint with
  | none =>
    rw [e.register_of_none protocols credentials hp]
    exact hu
  | some address =>
    obtain ⟨log, hr⟩ := e.register_of_some protocols credentials hp autostart
    rw [hr]
    refine ⟨hu.calls, fun h => ?_⟩
    exact (e.registry.isUp_insert address credentials protocols autostart h).trans (hu.isUp h)

theorem Untouched.change {e : Engine} (hu : e.Untouched) (c : RuleChange) :
    (e.change c).2.Untouched := by
  refine ⟨(e.calls_change c).trans hu.calls, fun h => ?_⟩
  rw [e.registry_change c]
  exact hu.isUp h

theorem Untouched.accounted {e : Engine} (hu : e.Untouched) : e.Accounted := by
  intro h
  rw [hu.calls]
  exact iff_of_true (released_nil h) (hu.isUp h)

end Engine

namespace Gateway

/-- A gateway like another but for its log, its rules and its filter. -/
structure Kept (g g' : Gateway) : Prop where
  calls : g'.calls = g.calls
  registry : g'.registry = g.registry
  stage : g'.stage = g.stage

end Gateway

def Operation.touchesProxies : Operation → Bool
  | .start | .stop | .addProxy _ _ _ _ => true
  | _ => false

namespace Gateway

theorem perform_kept (g : Gateway) {op : Operation} (h : op.touchesProxies = false) :
    g.Kept (g.perform op).2 := by
  cases op with
  | start => cases h
  | stop => cases h
  | addProxy endpoint protocols credentials start => cases h
  | change c => exact ⟨g.calls_change c, g.registry_change c, rfl⟩
  | flush =>
    show g.Kept g.flush
    unfold flush
    split <;> exact ⟨rfl, rfl, rfl⟩
  | setLogMirror path =>
    simp only [perform, mirrorTo]
    cases g.log.mirrorTo path <;> exact ⟨rfl, rfl, rfl⟩
  | _ => exact ⟨rfl, rfl, rfl⟩

theorem Kept.accounted {g g' : Gateway} (hk : g.Kept g') (ha : g.Accounted) : g'.Accounted :=
  ha.congr hk.calls fun h => by rw [hk.registry]

theorem accounted_bringUp {e : Engine} (ha : e.Accounted) : (bringUp e).2.Accounted := by
  obtain ⟨log, log', h⟩ := bringUp_eq e
  have hl : ({ e with log } : Engine).Accounted := ha.congr rfl fun _ => rfl
  rw [h]
  exact (hl.startEach e.registry.pending).congr rfl fun _ => rfl

theorem accounted_start {g : Gateway} (ha : g.Accounted) : g.start.2.Accounted := by
  unfold start
  split
  · exact ha
  · exact accounted_bringUp (e := { g.toEngine with log := (DrainWorker.spawn g.log).2 })
      (ha.congr rfl fun _ => rfl)

theorem accounted_stop {g : Gateway} (ha : g.Accounted) : g.stop.Accounted := by
  unfold stop
  split
  · exact ha.stopAll.congr rfl fun _ => rfl
  · exact ha

theorem accounted_next {g : Gateway} (ha : g.Accounted) (s : Step) : (g.next s).Accounted := by
  cases s with
  | logging change => exact ha.congr rfl fun _ => rfl
  | call op =>
    cases h : op.touchesProxies with
    | false => exact (g.perform_kept h).accounted ha
    | true =>
      cases op with
      | start => exact accounted_start ha
      | stop => exact accounted_stop ha
      | addProxy endpoint protocols credentials start =>
        exact ha.addProxy endpoint protocols credentials start
      | _ => cases h

theorem accounted_after {g : Gateway} (ha : g.Accounted) (steps : List Step) :
    (g.after steps).Accounted := by
  induction steps generalizing g with
  | nil => exact ha
  | cons s steps ih => exact ih (accounted_next ha s)

/-- A proxy is up, and its gateway is not started. -/
def Stray (g : Gateway) (h : Handle) : Prop := g.stage ≠ .started ∧ g.registry.isUp h = true

theorem not_stray_start (g : Gateway) (h : Handle) : ¬ g.start.2.Stray h := by
  intro hx
  obtain ⟨hs, -⟩ := hx
  unfold start at hs
  split at hs
  next hst => exact hs hst
  next => exact hs rfl

theorem isUp_stop (g : Gateway) (h : Handle) : g.stop.registry.isUp h = true ↔ g.Stray h := by
  by_cases hs : g.stage = .started
  · have hup : g.stop.registry.isUp h = false := by
      rw [stop, if_pos hs]
      exact Engine.isUp_stopAll g.toEngine h
    rw [hup]
    exact iff_of_false Bool.false_ne_true fun hstray => hstray.1 hs
  · rw [stop_of_ne hs]
    exact ⟨fun hu => ⟨hs, hu⟩, fun hstray => hstray.2⟩

theorem stray_stop (g : Gateway) (h : Handle) : g.stop.Stray h ↔ g.Stray h := by
  constructor
  · intro hstray
    exact (g.isUp_stop h).1 hstray.2
  · intro hstray
    exact ⟨g.stage_stop, (g.isUp_stop h).2 hstray⟩

theorem Kept.stray {g g' : Gateway} (hk : g.Kept g') (h : Handle) : g'.Stray h ↔ g.Stray h := by
  rw [Stray, Stray, hk.stage, hk.registry]

/-- A step brings a proxy up although the gateway is not started. -/
def Strays (g : Gateway) (s : Step) (h : Handle) : Prop :=
  ∃ endpoint protocols credentials, s = .call (.addProxy endpoint protocols credentials true) ∧
    (g.perform (.addProxy endpoint protocols credentials true)).1 = .ok (.handle h) ∧
      g.stage ≠ .started

theorem stray_addProxy (g : Gateway) (endpoint : String) (protocols : ProtocolMask)
    (credentials : Option Credentials) (start : Bool) (h : Handle) :
    (g.perform (.addProxy endpoint protocols credentials start)).2.Stray h ↔
      g.Stray h ∨ start = true ∧ g.stage ≠ .started ∧
        (g.perform (.addProxy endpoint protocols credentials start)).1 = .ok (.handle h) := by
  have hup := g.toEngine.isUp_addProxy endpoint protocols credentials start h
  have hanswer :
      (g.perform (.addProxy endpoint protocols credentials start)).1 = .ok (.handle h) ↔
      (g.toEngine.addProxy endpoint protocols credentials start).1 = .ok h := by
    show (g.toEngine.addProxy endpoint protocols credentials start).1.map Answer.handle = _ ↔ _
    cases (g.toEngine.addProxy endpoint protocols credentials start).1 with
    | ok k => simp [Except.map]
    | error error => simp [Except.map]
  rw [hanswer]
  show g.stage ≠ .started ∧
      (g.toEngine.addProxy endpoint protocols credentials start).2.registry.isUp h = true ↔ _
  rw [hup, Stray]
  constructor
  · intro hx
    obtain ⟨hs, hu | ⟨ht, ha⟩⟩ := hx
    · exact .inl ⟨hs, hu⟩
    · exact .inr ⟨ht, hs, ha⟩
  · intro hx
    rcases hx with ⟨hs, hu⟩ | ⟨ht, hs, ha⟩
    · exact ⟨hs, .inl hu⟩
    · exact ⟨hs, .inr ⟨ht, ha⟩⟩

theorem stray_next (g : Gateway) (s : Step) (h : Handle) :
    (g.next s).Stray h ↔ g.Strays s h ∨ g.Stray h ∧ s ≠ .call .start := by
  -- only adding a proxy can bring one up outside a start
  have hother (hs : ∀ e p c, s ≠ .call (.addProxy e p c true)) : ¬ g.Strays s h := by
    intro hx
    obtain ⟨e, p, c, rfl, -⟩ := hx
    exact hs e p c rfl
  cases s with
  | logging change =>
    have hn := hother fun _ _ _ => Step.noConfusion
    have hk : g.Kept (g.next (.logging change)) := ⟨rfl, rfl, rfl⟩
    rw [hk.stray h]
    simp [hn]
  | call op =>
    cases ht : op.touchesProxies with
    | false =>
      rw [show g.next (.call op) = (g.perform op).2 from rfl, (g.perform_kept ht).stray h]
      have hn := hother fun e p c he => by cases he; cases ht
      have hne : Step.call op ≠ .call .start := fun he => by cases he; cases ht
      simp [hn, hne]
    | true =>
      cases op with
      | start =>
        have hn := hother fun e p c he => by cases he
        exact iff_of_false (g.not_stray_start h) (by simp [hn])
      | stop =>
        have hn := hother fun e p c he => by cases he
        refine (g.stray_stop h).trans ?_
        simp [hn]
      | addProxy endpoint protocols credentials start =>
        refine (g.stray_addProxy endpoint protocols credentials start h).trans ?_
        constructor
        · intro hx
          rcases hx with hg | ⟨rfl, hs, ha⟩
          · exact .inr ⟨hg, fun he => by cases he⟩
          · exact .inl ⟨endpoint, protocols, credentials, rfl, ha, hs⟩
        · intro hx
          rcases hx with ⟨e, p, c, ⟨⟩, ha, hs⟩ | ⟨hg, -⟩
          · exact .inr ⟨rfl, hs, ha⟩
          · exact .inl hg
      | _ => cases ht

theorem stray_after_iff {g : Gateway} (hg : ∀ h, ¬ g.Stray h) (steps : List Step) (h : Handle) :
    (g.after steps).Stray h ↔ ∃ before s after,
      steps = before ++ s :: after ∧ (g.after before).Strays s h ∧ .call .start ∉ after := by
  induction steps using List.reverseRecOn with
  | nil => simpa [Gateway.after] using hg h
  | append_singleton steps s ih =>
    rw [after_concat, stray_next, ih]
    constructor
    · intro hx
      rcases hx with hs | ⟨⟨before, s', after, rfl, hs, hn⟩, hne⟩
      · exact ⟨steps, s, [], rfl, hs, List.not_mem_nil⟩
      · refine ⟨before, s', after ++ [s], by simp, hs, ?_⟩
        rw [List.mem_append, List.mem_singleton]
        intro hx
        rcases hx with hm | rfl
        · exact hn hm
        · exact hne rfl
    · intro hx
      obtain ⟨before, s', after, heq, hs, hn⟩ := hx
      rcases List.eq_nil_or_concat after with rfl | ⟨rest, d, rfl⟩
      · obtain ⟨rfl, hd⟩ := List.append_inj' heq rfl
        cases hd
        exact .inl hs
      · rw [List.concat_eq_append] at heq hn
        rw [← List.cons_append, ← List.append_assoc] at heq
        obtain ⟨rfl, hd⟩ := List.append_inj' heq rfl
        cases hd
        rw [List.mem_append, List.mem_singleton] at hn
        exact .inr ⟨⟨before, s', rest, rfl, hs, fun hm => hn (.inl hm)⟩,
          fun he => hn (.inr he.symm)⟩

theorem untouched_of_build {o : Origin} {relay : Relay} {files : FileTree} {g : Gateway}
    (hg : o.build relay files = .ok g) : g.Untouched := by
  cases o with
  | options o => cases hg; exact ⟨rfl, fun _ => rfl⟩
  | config c =>
    obtain ⟨-, m, e, hm, he, rfl⟩ := ofConfig_eq_ok hg
    obtain ⟨log, rfl⟩ := mirrored_eq_ok hm
    refine Engine.applyConfig_keeps (fun e endpoint protocols credentials autostart hu => ?_)
      (fun e c hu => ?_) ⟨rfl, fun _ => rfl⟩ he
    · exact hu.register endpoint protocols credentials autostart
    · exact hu.change c

/-- A proxy is released by the end of its gateway unless it was brought up while the gateway was not
started, and no start came after that. -/
theorem released_by_finish_iff {o : Origin} {relay : Relay} {files : FileTree} {g : Gateway}
    (hg : o.build relay files = .ok g) (steps : List Step) (h : Handle) :
    Released h (g.after steps).finish.calls.toList ↔
      ¬ ∃ before after endpoint protocols credentials,
        steps = before ++ .call (.addProxy endpoint protocols credentials true) :: after ∧
        ((g.after before).perform (.addProxy endpoint protocols credentials true)).1 =
          .ok (.handle h) ∧
        (g.after before).stage ≠ .started ∧ .call .start ∉ after := by
  have hu := untouched_of_build hg
  have hstray : ∀ k, ¬ g.Stray k := fun k hk => Bool.false_ne_true ((hu.isUp k).symm.trans hk.2)
  have ha := accounted_stop (accounted_after hu.accounted steps)
  have hr : Released h (g.after steps).finish.calls.toList ↔
      (g.after steps).stop.registry.isUp h = false := ha h
  rw [hr, ← Bool.not_eq_true, isUp_stop, stray_after_iff hstray]
  refine not_congr ?_
  constructor
  · intro hx
    obtain ⟨before, s, after, rfl, hstray, hn⟩ := hx
    obtain ⟨endpoint, protocols, credentials, rfl, hok, hs⟩ := hstray
    exact ⟨before, after, endpoint, protocols, credentials, rfl, hok, hs, hn⟩
  · intro hx
    obtain ⟨before, after, endpoint, protocols, credentials, rfl, hok, hs, hn⟩ := hx
    exact ⟨before, _, after, rfl, ⟨endpoint, protocols, credentials, rfl, hok, hs⟩, hn⟩

theorem released_by_finish_once_started :
    let steps : List Step := [.call .start, .call (.addProxy "127.0.0.1:1080" .both none true)]
    Released ⟨1⟩ (((create {} .accepting {}).after steps).finish.calls.toList) := by
  intro steps
  refine (released_by_finish_iff (o := .options {}) rfl steps ⟨1⟩).2 ?_
  intro hx
  obtain ⟨before, after, endpoint, protocols, credentials, heq, -, hs, -⟩ := hx
  match before with
  | [] =>
    obtain ⟨hfirst, -⟩ := List.cons.inj heq
    cases hfirst
  | [s] =>
    obtain ⟨rfl, -⟩ := List.cons.inj heq
    exact hs (by decide +kernel)
  | s :: t :: rest => simp [steps] at heq

theorem not_released_before_start :
    let g := (create {} .accepting {}).after [.call (.addProxy "127.0.0.1:1080" .both none true)]
    g.finish.calls.toList = [.started ⟨1⟩ ⟨.v4 0x7f000001#32, 1080⟩] ∧
      ¬ Released ⟨1⟩ g.finish.calls.toList := by
  intro g
  have hcalls : g.finish.calls.toList = [.started ⟨1⟩ ⟨.v4 0x7f000001#32, 1080⟩] := by
    decide +kernel
  refine ⟨hcalls, ?_⟩
  rw [hcalls]
  exact not_released_concat_started ⟨1⟩ [] _

end Gateway
end SocksGateway
