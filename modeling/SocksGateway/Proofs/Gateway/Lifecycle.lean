import SocksGateway.Proofs.Engine.Attempts
import SocksGateway.Proofs.Gateway.Release

namespace SocksGateway

/-- A worker does its work between two calls, but no gateway gains or loses one there. -/
def Step.KeepsWorker : Step → Prop
  | .call _ => True
  | .logging change => ∀ log worker, (change log worker).2.isSome = worker.isSome

/-- A call was made, and none that ends what it began came after it. -/
def Since (op ender : Operation) (steps : List Step) : Prop :=
  ∃ before after, steps = before ++ .call op :: after ∧ .call ender ∉ after

theorem not_since_nil (op ender : Operation) : ¬ Since op ender [] := by
  intro hx
  obtain ⟨before, after, heq, -⟩ := hx
  simp at heq

theorem since_concat (op ender : Operation) (steps : List Step) (s : Step) :
    Since op ender (steps ++ [s]) ↔
      s = .call op ∨ Since op ender steps ∧ s ≠ .call ender := by
  constructor
  · intro hx
    obtain ⟨before, after, heq, hn⟩ := hx
    rcases List.eq_nil_or_concat after with rfl | ⟨rest, d, rfl⟩
    · obtain ⟨-, hs⟩ := List.append_inj' heq rfl
      exact .inl (List.head_eq_of_cons_eq hs)
    · rw [List.concat_eq_append] at heq hn
      rw [← List.cons_append, ← List.append_assoc] at heq
      obtain ⟨rfl, hd⟩ := List.append_inj' heq rfl
      cases hd
      rw [List.mem_append, List.mem_singleton] at hn
      exact .inr ⟨⟨before, rest, rfl, fun hm => hn (.inl hm)⟩, fun he => hn (.inr he.symm)⟩
  · intro hx
    rcases hx with rfl | ⟨⟨before, after, rfl, hn⟩, hne⟩
    · exact ⟨steps, [], rfl, List.not_mem_nil⟩
    · refine ⟨before, after ++ [s], by simp, ?_⟩
      rw [List.mem_append, List.mem_singleton]
      intro hx
      rcases hx with hm | he
      · exact hn hm
      · exact hne he.symm

def Stage.following (stage : Stage) : Step → Stage
  | .call .start => .started
  | .call .stop => if stage = .created then .created else .stopped
  | _ => stage

namespace Stage

theorem following_of_untouched (stage : Stage) {op : Operation} (h : op.touchesProxies = false) :
    stage.following (.call op) = stage := by
  cases op with
  | start => cases h
  | stop => cases h
  | _ => rfl

section
variable (stage : Stage) (s : Step)

theorem following_eq_created :
    stage.following s = .created ↔ stage = .created ∧ s ≠ .call .start := by
  cases s with
  | logging change => simp [following]
  | call op => cases op <;> cases stage <;> simp [following]

theorem following_eq_started :
    stage.following s = .started ↔
      s = .call .start ∨ stage = .started ∧ s ≠ .call .stop := by
  cases s with
  | logging change => simp [following]
  | call op => cases op <;> cases stage <;> simp [following]

theorem following_eq_stopped : stage.following s = .stopped ↔
    s = .call .stop ∧ stage ≠ .created ∨ stage = .stopped ∧ s ≠ .call .start := by
  cases s with
  | logging change => simp [following]
  | call op => cases op <;> cases stage <;> simp [following]

end
end Stage

namespace Gateway

theorem start_of_started {g : Gateway} (h : g.stage = .started) :
    g.start = (.error .alreadyRunning, g) := by
  rw [start, if_pos h]

def startedStep (as : List Attempt) : LogStep :=
  .message .info ("Gateway started (" ++ toString (as.filterMap (·.error?)).length ++
    " proxy start failures)")

theorem leads_foldl_diagnose {α : Type} (e : Engine) (severity : Severity) (text : α → String)
    (as : List α) :
    e.log.Leads [] (as.foldl (fun e a => e.diagnose severity (text a)) e).log := by
  induction as generalizing e with
  | nil => exact .refl e.log
  | cons a as ih => exact (Pipeline.Leads.remark e.log severity (text a) .caller).trans (ih _)

theorem bringUp_attempts (e : Engine) : ∃ log,
    e.log.Leads (e.attempts.map (·.logStep) ++ [startedStep e.attempts]) log ∧
    bringUp e = (e.attempts.filterMap (·.error?),
      { e with
        calls := e.calls ++ e.attempts.map (·.call)
        registry := e.registry.setStates (broughtUp e.attempts) .running
        log }) := by
  let warned (f : GatewayError) : String := "Gateway started without proxy: " ++ f.message
  let errors := e.attempts.filterMap (·.error?)
  have hattempts : (e.diagnose .info (startText e)).attempts = e.attempts := rfl
  obtain ⟨log, hlog, he⟩ := (e.diagnose .info (startText e)).startPending_eq
  rw [hattempts] at hlog he
  let tried : Engine :=
    { e with
      calls := e.calls ++ e.attempts.map (·.call)
      registry := e.registry.setStates (broughtUp e.attempts) .running
      log }
  obtain ⟨log', hd⟩ := Engine.foldl_diagnose tried .warn warned errors
  have hwarned := leads_foldl_diagnose tried .warn warned errors
  rw [hd] at hwarned
  have hstarting : e.log.Leads [] (e.diagnose .info (startText e)).log := .remark _ _ _ _
  have hall := ((hstarting.trans hlog).trans hwarned).trans (.step log' (startedStep e.attempts))
  rw [List.nil_append, List.append_nil] at hall
  refine ⟨_, hall, ?_⟩
  unfold bringUp
  simp only [he]
  show (errors, (errors.foldl (fun e f => e.diagnose .warn (warned f)) tried).message .info _) = _
  rw [hd]
  rfl

theorem start_of_ne {g : Gateway} (h : g.stage ≠ .started) : ∃ log,
    g.log.Leads (g.attempts.map (·.logStep) ++ [startedStep g.attempts]) log ∧
    g.start = (.ok (g.attempts.filterMap (·.error?)),
      { g with
        calls := g.calls ++ g.attempts.map (·.call)
        registry := g.registry.setStates (broughtUp g.attempts) .running
        log
        stage := .started
        worker := some {} }) := by
  obtain ⟨log, hlog, he⟩ :=
    bringUp_attempts { g.toEngine with log := (DrainWorker.spawn g.log).2 }
  have hspawned : g.log.Leads [] (DrainWorker.spawn g.log).2 := .remark _ _ _ _
  refine ⟨log, hspawned.trans hlog, ?_⟩
  rw [start, if_neg h]
  simp only [he]
  rfl

/-- What a start of a gateway that is not started does. -/
structure Starts (g : Gateway) (as : List Attempt) (errors : List GatewayError) (g' : Gateway) :
    Prop where
  attempted : as.map (·.proxy) = g.registry.proxies.filter fun p =>
    p.autostart && p.state == .stopped
  ascending : as.Pairwise fun a b => a.proxy.handle.number < b.proxy.handle.number
  answers {before after : List Attempt} {a : Attempt} (ha : as = before ++ a :: after) :
    a.failure = g.relay.answer (g.calls.toList ++ before.map (·.call)) a.proxy
  calls : g'.calls.toList = g.calls.toList ++ as.map (·.call)
  errors : errors = as.filterMap (·.error?)
  proxies : g'.registry.proxies =
    g.registry.proxies.map fun p =>
      if p.handle ∈ broughtUp as then { p with state := .running } else p
  up (h : Handle) : (∃ p, g'.registry.get? h = some p ∧ p.state = .running) ↔
    (∃ p, g.registry.get? h = some p ∧ p.state = .running) ∨
      ∃ a ∈ as, a.proxy.handle = h ∧ a.failure = none

theorem starts_of_ne {g : Gateway} (h : g.stage ≠ .started) : ∃ as errors,
    (g.perform .start).1 = .ok (.failures errors) ∧ g.Starts as errors (g.perform .start).2 := by
  obtain ⟨log, -, hs⟩ := start_of_ne h
  have hproxies : g.attempts.map (·.proxy) = g.registry.proxies.filter (·.isPending) :=
    Relay.proxies_attempts g.relay g.calls.toList _
  have hregistered : ∀ k ∈ broughtUp g.attempts, g.registry.contains k = true := by
    intro k hk
    obtain ⟨a, ha, rfl, -⟩ := mem_broughtUp.1 hk
    have hp : a.proxy ∈ g.registry.proxies.filter (·.isPending) :=
      hproxies ▸ List.mem_map_of_mem ha
    exact Registry.contains_of_get?
      ((g.registry.get?_eq_some_iff _ _).2 ⟨(List.mem_filter.1 hp).1, rfl⟩)
  refine ⟨g.attempts, _, ?_, ?_, ?_, ?_, ?_, rfl, ?_, ?_⟩
  · show g.start.1.map Answer.failures = _
    rw [hs]
    rfl
  · rw [hproxies]
    refine List.filter_congr fun p _ => ?_
    unfold Proxy.isPending Proxy.isRunning
    cases p.state <;> rfl
  · have hasc := g.registry.ascending.filter (·.isPending)
    rw [← hproxies, List.pairwise_map] at hasc
    exact hasc
  · exact Relay.failure_of_attempts
  · show g.start.2.calls.toList = _
    rw [hs]
    exact Array.toList_appendList
  · show g.start.2.registry.proxies = _
    rw [hs]
    exact g.registry.proxies_setStates _ _
  · intro k
    rw [← Registry.isUp_iff, ← Registry.isUp_iff, ← mem_broughtUp]
    show g.start.2.registry.isUp k = true ↔ _
    rw [hs, or_comm]
    exact Registry.isUp_setStates_running hregistered k

/-- What a stop of a started gateway does. -/
structure Stops (g g' : Gateway) : Prop where
  calls : g'.calls.toList = g.calls.toList ++
    (g.registry.proxies.filter (·.state == .running)).map fun p => .stopped p.handle p.endpoint
  ascending : (g.registry.proxies.filter (·.state == .running)).Pairwise fun p q =>
    p.handle.number < q.handle.number
  proxies : g'.registry.proxies = g.registry.proxies.map ({ · with state := .stopped })

theorem stops_of_started {g : Gateway} (h : g.stage = .started) : g.Stops g.stop := by
  obtain ⟨log, -, he⟩ := Engine.stopEach_eq g.registry.running g.toEngine
  have hall : g.stop.registry = (g.registry.running.foldl Engine.stopProxy g.toEngine).registry ∧
      g.stop.calls = (g.registry.running.foldl Engine.stopProxy g.toEngine).calls := by
    rw [stop, if_pos h]
    exact ⟨rfl, rfl⟩
  refine ⟨?_, g.registry.ascending.filter _, ?_⟩
  · rw [hall.2, he]
    exact Array.toList_appendList
  · rw [hall.1, he]
    refine (g.registry.proxies_setStates _ _).trans (List.map_congr_left fun p hp => ?_)
    split
    · rfl
    next hn =>
      -- a proxy that was not stopped here was down before
      have hdown : p.isRunning = false := by
        by_contra hup
        rw [Bool.not_eq_false] at hup
        exact hn (List.mem_map_of_mem (List.mem_filter.2 ⟨hp, hup⟩))
      rw [← p.isRunning_eq_false_iff.1 hdown]

theorem stage_next (g : Gateway) (s : Step) : (g.next s).stage = g.stage.following s := by
  cases s with
  | logging change => rfl
  | call op =>
    cases ht : op.touchesProxies with
    | false => rw [Stage.following_of_untouched _ ht]; exact (g.perform_kept ht).stage
    | true =>
      cases op with
      | start =>
        show g.start.2.stage = .started
        by_cases h : g.stage = .started
        · rw [start_of_started h, h]
        · obtain ⟨log, -, hs⟩ := start_of_ne h
          rw [hs]
      | stop =>
        show g.stop.stage = if g.stage = .created then .created else .stopped
        unfold stop
        cases h : g.stage <;> simp [h]
      | addProxy endpoint protocols credentials start => rfl
      | _ => cases ht

/-- A worker is there exactly while the gateway is started. -/
def Staffed (g : Gateway) : Prop := g.worker.isSome = true ↔ g.stage = .started

theorem Staffed.next {g : Gateway} (hw : g.Staffed) {s : Step} (hs : s.KeepsWorker) :
    (g.next s).Staffed := by
  cases s with
  | logging change =>
    show (change g.log g.worker).2.isSome = true ↔ _
    rw [hs]
    exact hw
  | call op =>
    cases op with
    | start =>
      show g.start.2.Staffed
      by_cases h : g.stage = .started
      · rw [start_of_started h]
        exact hw
      · obtain ⟨log, -, hs⟩ := start_of_ne h
        rw [hs]
        exact iff_of_true rfl rfl
    | stop =>
      show g.stop.Staffed
      unfold stop
      split
      · exact iff_of_false Bool.false_ne_true (by simp)
      · exact hw
    | flush =>
      show g.flush.Staffed
      unfold flush
      split
      next => exact hw
      next w hg =>
        rw [Staffed, hg] at hw
        exact hw
    | setLogMirror path =>
      simp only [Gateway.next, perform, mirrorTo]
      cases g.log.mirrorTo path <;> exact hw
    | _ => exact hw

/-- The stage of a gateway tells which starts and stops it had. -/
structure Phased (steps : List Step) (g : Gateway) : Prop where
  created : g.stage = .created ↔ .call .start ∉ steps
  started : g.stage = .started ↔ Since .start .stop steps
  stopped : g.stage = .stopped ↔ .call .start ∈ steps ∧ Since .stop .start steps
  worker : g.worker.isSome = true ↔ g.stage = .started

theorem phased_after {g : Gateway} (hg : g.stage = .created) (hw : g.worker = none)
    {steps : List Step} (hs : ∀ s ∈ steps, s.KeepsWorker) : Phased steps (g.after steps) := by
  induction steps using List.reverseRecOn with
  | nil =>
    have hnone : g.after [] = g := rfl
    exact ⟨by simp [hnone, hg], by simp [hnone, hg, not_since_nil], by simp [hnone, hg],
      by simp [hnone, hg, hw]⟩
  | append_singleton steps s ih =>
    have hp := ih fun t ht => hs t (by simp [ht])
    have hn := (g.after steps).stage_next s
    have hstaffed : ((g.after steps).next s).Staffed := Staffed.next hp.worker (hs s (by simp))
    rw [after_concat]
    refine ⟨?_, ?_, ?_, hstaffed⟩
    · rw [hn, Stage.following_eq_created, hp.created, List.mem_append,
        List.mem_singleton, not_or, ne_comm]
    · rw [hn, Stage.following_eq_started, hp.started, since_concat]
    · rw [hn, Stage.following_eq_stopped, hp.stopped, Ne, hp.created, not_not,
        since_concat, List.mem_append, List.mem_singleton]
      constructor
      · intro hx
        rcases hx with ⟨he, hm⟩ | ⟨⟨hm, hs⟩, hne⟩
        · exact ⟨.inl hm, .inl he⟩
        · exact ⟨.inl hm, .inr ⟨hs, hne⟩⟩
      · intro hx
        obtain ⟨hm, hs⟩ := hx
        rcases hs with rfl | ⟨hs, hne⟩
        · refine .inl ⟨rfl, hm.resolve_right ?_⟩
          intro he
          cases he
        · exact .inr ⟨⟨hm.resolve_right hne.symm, hs⟩, hne⟩

/-- A stop and a start after it: every proxy that starts by itself is tried. -/
structure Restarts (g : Gateway) (as : List Attempt) (errors : List GatewayError) (g' : Gateway) :
    Prop where
  starts : g.stop.Starts as errors g'
  attempted : as.map (·.proxy) =
    (g.registry.proxies.filter (·.autostart)).map ({ · with state := .stopped })
  up (h : Handle) : (∃ p, g'.registry.get? h = some p ∧ p.state = .running) ↔
    ∃ a ∈ as, a.proxy.handle = h ∧ a.failure = none

theorem restarts_of_started {g : Gateway} (h : g.stage = .started) : ∃ as errors,
    (g.stop.perform .start).1 = .ok (.failures errors) ∧
      g.Restarts as errors (g.stop.perform .start).2 := by
  obtain ⟨as, errors, hok, hs⟩ := starts_of_ne g.stage_stop
  refine ⟨as, errors, hok, hs, ?_, fun k => ?_⟩
  · rw [hs.attempted, (stops_of_started h).proxies, List.filter_map]
    refine congrArg (List.map _) (List.filter_congr fun p _ => ?_)
    exact Bool.and_true p.autostart
  · rw [hs.up, or_iff_right]
    rw [← Registry.isUp_iff, isUp_stop]
    exact fun hstray => hstray.1 h

/-- The life of a gateway that had these steps. -/
structure Lives (steps : List Step) (g : Gateway) : Prop where
  phased : Phased steps g
  startFails : (∃ error, (g.perform .start).1 = .error error) ↔ g.stage = .started
  alreadyRunning (h : g.stage = .started) : g.perform .start = (.error .alreadyRunning, g)
  starts (h : g.stage ≠ .started) : ∃ as errors,
    (g.perform .start).1 = .ok (.failures errors) ∧ g.Starts as errors (g.perform .start).2
  stops (h : g.stage = .started) : (g.perform .stop).1 = .ok .done ∧ g.Stops (g.perform .stop).2
  rests (h : g.stage ≠ .started) : g.perform .stop = (.ok .done, g)
  stopsOnce : (g.perform .stop).2.perform .stop = (.ok .done, (g.perform .stop).2)
  restarts (h : g.stage = .started) : ∃ as errors,
    ((g.perform .stop).2.perform .start).1 = .ok (.failures errors) ∧
      g.Restarts as errors ((g.perform .stop).2.perform .start).2

/-- However a relay answers and whatever comes in between, starts and stops do what they are for. -/
theorem lives_after {o : Origin} {relay : Relay} {files : FileTree} {g : Gateway}
    (hg : o.build relay files = .ok g) {steps : List Step} (hs : ∀ s ∈ steps, s.KeepsWorker) :
    Lives steps (g.after steps) := by
  have hnew : g.stage = .created ∧ g.worker = none := by
    cases o with
    | options o => cases hg; exact ⟨rfl, rfl⟩
    | config c =>
      obtain ⟨-, m, e, hm, -, rfl⟩ := ofConfig_eq_ok hg
      obtain ⟨log, rfl⟩ := mirrored_eq_ok hm
      exact ⟨rfl, rfl⟩
  have hrests : ∀ g : Gateway, g.stage ≠ .started → g.perform .stop = (.ok .done, g) := by
    intro g h
    show (_, g.stop) = _
    rw [stop_of_ne h]
  have hrunning : ∀ g : Gateway, g.stage = .started →
      g.perform .start = (.error .alreadyRunning, g) := by
    intro g h
    show (g.start.1.map Answer.failures, g.start.2) = _
    rw [start_of_started h]
    rfl
  refine ⟨phased_after hnew.1 hnew.2 hs, ?_, hrunning _, starts_of_ne,
    fun h => ⟨rfl, stops_of_started h⟩, hrests _,
    hrests _ (stage_stop _), restarts_of_started⟩
  constructor
  · intro hx
    obtain ⟨error, hfail⟩ := hx
    by_contra hne
    obtain ⟨as, errors, hok, -⟩ := starts_of_ne hne
    rw [hok] at hfail
    cases hfail
  · intro h
    exact ⟨.alreadyRunning, by rw [hrunning _ h]⟩

theorem lives_after_refusals :
    let relay : Relay := ⟨fun calls _ =>
      if calls.length = 1 ∨ calls.length = 5 then some ⟨["refused"]⟩ else none⟩
    let steps : List Step := [.call (.addProxy "127.0.0.1:1080" .both none true),
      .call (.addProxy "127.0.0.1:1081" .both none true), .call .start,
        .logging fun log worker => (log, worker)]
    let g := (create {} relay {}).after steps
    Lives steps g ∧ g.stage = .started ∧ g.worker.isSome = true ∧
      g.calls.toList.map RelayCall.toText =
        ["start proxy#1 127.0.0.1:1080", "start proxy#2 127.0.0.1:1081",
          "start proxy#2 127.0.0.1:1081"] ∧
      ((g.perform .stop).2.perform .start).1 = .ok (.failures [.startFailed ⟨1⟩ "refused"]) ∧
      ∃ p, ((g.perform .stop).2.perform .start).2.registry.get? ⟨2⟩ = some p ∧
        p.state = .running := by
  intro relay steps g
  have hsteps : ∀ s ∈ steps, s.KeepsWorker := by
    simp [steps, Step.KeepsWorker]
  have hlives :=
    lives_after (o := .options {}) (rfl : Origin.build relay {} (.options {}) = _) hsteps
  change Lives steps g at hlives
  have hstarted : g.stage = .started :=
    hlives.phased.started.2 ⟨steps.take 2, [.logging _], rfl, by simp⟩
  refine ⟨hlives, hstarted, hlives.phased.worker.2 hstarted, by decide +kernel, by decide +kernel,
    ?_⟩
  exact (Registry.isUp_iff _ _).1 (by decide +kernel)

end Gateway
end SocksGateway
