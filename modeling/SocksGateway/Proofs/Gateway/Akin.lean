import SocksGateway.Proofs.Engine.Muted
import SocksGateway.Proofs.Gateway.Copy
import SocksGateway.Proofs.Gateway.Heedless
import SocksGateway.Proofs.Log.MirrorFiles
import SocksGateway.Proofs.Log.Threshold

/-!
Gateways that differ in their logs. A gateway offers its log the same entries whatever the log makes
of them, and what it answers and what it is afterwards do not depend on the log either. Which files
can be opened is all that comes back from a log, and that depends on no entry.
-/
namespace SocksGateway

namespace LogStep

/-- A step that opens nothing and leaves the threshold as it is. -/
structure Modest (s : LogStep) : Prop where
  opensNothing : s.OpensNothing
  keepsLevel : s.level? = none

/-- A step that offers nothing either. -/
structure Quiet (s : LogStep) : Prop extends Modest s where
  offersNothing : s.offer? = none

theorem modest_append (level : Level) (event : EventKind) (payload : Payload) :
    (append level event payload).Modest := ⟨trivial, rfl⟩

theorem modest_message (level : Level) (text : String) : (message level text).Modest :=
  ⟨trivial, rfl⟩

end LogStep

theorem Pipeline.SameFiles.of_modest {p q p' q' : Pipeline} {as bs : List LogStep}
    (h : p.SameFiles q) (hp : p.Leads as p') (has : ∀ s ∈ as, s.Modest) (hq : q.Leads bs q')
    (hbs : ∀ s ∈ bs, s.Modest) :
    p'.SameFiles q' :=
  h.of_leads hp (fun s hs => (has s hs).opensNothing) hq fun s hs => (hbs s hs).opensNothing

theorem Attempt.modest_logStep (a : Attempt) : a.logStep.Modest := by
  unfold logStep
  split
  · exact LogStep.modest_append _ _ _
  · exact LogStep.modest_message _ _

theorem DrainWorker.quiet_work (n : Nat) (w : DrainWorker) (log : Pipeline) :
    ∀ s ∈ work n w log, s.Quiet := by
  induction n generalizing w log with
  | zero => exact List.forall_mem_nil _
  | succ n ih => exact List.forall_mem_cons.2 ⟨⟨⟨trivial, rfl⟩, rfl⟩, ih _ _⟩

theorem offers_of_quiet {steps : List LogStep} (h : ∀ s ∈ steps, s.Quiet) : offers steps = [] :=
  List.filterMap_eq_nil_iff.2 fun s hs => (h s hs).offersNothing

namespace Engine

variable (e : Engine)

theorem modest_changeSteps (c : RuleChange) : ∀ s ∈ e.changeSteps c, s.Modest := by
  intro s hs
  unfold changeSteps at hs
  split at hs
  · obtain ⟨text, -, rfl⟩ := List.mem_map.1 hs
    exact LogStep.modest_message _ _
  · cases hs

theorem modest_registerSteps (endpoint : String) (protocols : ProtocolMask) :
    ∀ s ∈ e.registerSteps endpoint protocols, s.Modest := by
  intro s hs
  unfold registerSteps at hs
  split at hs
  · cases hs
  · obtain rfl := List.mem_singleton.1 hs
    exact LogStep.modest_message _ _

theorem modest_startSteps (h : Handle) : ∀ s ∈ e.startSteps h, s.Modest := by
  intro s hs
  unfold startSteps at hs
  split at hs
  · cases hs
  · split at hs
    · cases hs
    · obtain rfl := List.mem_singleton.1 hs
      exact Attempt.modest_logStep _

theorem modest_addSteps (endpoint : String) (protocols : ProtocolMask)
    (credentials : Option Credentials) (start : Bool) :
    ∀ s ∈ e.addSteps endpoint protocols credentials start, s.Modest := by
  intro s hs
  rcases List.mem_append.1 hs with hs | hs
  · exact e.modest_registerSteps endpoint protocols s hs
  · split at hs
    · cases hs
    · split at hs
      · exact modest_startSteps _ _ s hs
      · cases hs

theorem modest_tearDownSteps : ∀ s ∈ e.tearDownSteps, s.Modest := by
  intro s hs
  rcases List.mem_append.1 hs with hs | hs
  · obtain ⟨p, -, rfl⟩ := List.mem_map.1 hs
    exact LogStep.modest_append _ _ _
  · obtain rfl := List.mem_singleton.1 hs
    exact LogStep.modest_message _ _

theorem addSteps_of_viewed {view : PolicyTable → PolicyTable} {e e' : Engine}
    (h : e.viewed view = e'.viewed view) (endpoint : String) (protocols : ProtocolMask)
    (credentials : Option Credentials) (start : Bool) :
    e.addSteps endpoint protocols credentials start =
      e'.addSteps endpoint protocols credentials start := by
  obtain ⟨hanswer, hengine⟩ := (heedless_register endpoint protocols credentials start).congr h
  have hsteps : e.registerSteps endpoint protocols = e'.registerSteps endpoint protocols :=
    eq_of_viewed (f := (·.registerSteps endpoint protocols)) (fun _ => rfl) h
  unfold addSteps
  rw [hsteps]
  generalize e.register endpoint protocols credentials start = result at hanswer hengine ⊢
  generalize e'.register endpoint protocols credentials start = result' at hanswer hengine ⊢
  obtain ⟨answer, m⟩ := result
  obtain ⟨answer', m'⟩ := result'
  obtain rfl : answer = answer' := hanswer
  cases answer with
  | error error => rfl
  | ok k =>
    have hstart : m.startSteps k = m'.startSteps k :=
      eq_of_viewed (f := (·.startSteps k)) (fun _ => rfl) hengine
    dsimp only
    rw [hstart]

theorem addSteps_of_muted {e e' : Engine} (h : e.muted = e'.muted) (endpoint : String)
    (protocols : ProtocolMask) (credentials : Option Credentials) (start : Bool) :
    e.addSteps endpoint protocols credentials start =
      e'.addSteps endpoint protocols credentials start := by
  have hviewed : e.viewed id = e'.viewed id := h
  exact addSteps_of_viewed hviewed endpoint protocols credentials start

end Engine

namespace Gateway

theorem quiet_endSteps (worker : Option DrainWorker) (log : Pipeline) :
    ∀ s ∈ endSteps worker log, s.Quiet := by
  cases worker with
  | none => exact List.forall_mem_nil _
  | some w => exact DrainWorker.quiet_work 3 w.requestShutdown log

theorem modest_logSteps (g : Gateway) {op : Operation}
    (hlevel : ∀ level, op ≠ .setLogLevel level)
    (hmirror : ∀ path, op ≠ .setLogMirror path) : ∀ s ∈ g.logSteps op, s.Modest := by
  have hone : ∀ {s : LogStep}, s.Modest → ∀ x ∈ [s], x.Modest :=
    fun hs => List.forall_mem_singleton.2 hs
  cases op with
  | start =>
    rw [logSteps]
    split
    · exact List.forall_mem_nil _
    · intro s hs
      rcases List.mem_append.1 hs with hs | hs
      · obtain ⟨a, -, rfl⟩ := List.mem_map.1 hs
        exact a.modest_logStep
      · obtain rfl := List.mem_singleton.1 hs
        exact LogStep.modest_message _ _
  | stop =>
    rw [logSteps]
    split
    · intro s hs
      rcases List.mem_append.1 hs with hs | hs
      · exact g.modest_tearDownSteps s hs
      · exact (quiet_endSteps _ _ s hs).toModest
    · exact List.forall_mem_nil _
  | addProxy endpoint protocols credentials start =>
    exact g.modest_addSteps endpoint protocols credentials start
  | change c => exact g.modest_changeSteps c
  | flush =>
    rw [logSteps]
    split
    · exact List.forall_mem_nil _
    · exact fun s hs => (DrainWorker.quiet_work _ _ _ s hs).toModest
  | setLogLevel level => exact absurd rfl (hlevel level)
  | setLogMirror path => exact absurd rfl (hmirror path)
  | _ => exact hone ⟨trivial, rfl⟩

theorem keepsLevel_logSteps (g : Gateway) {op : Operation}
    (hlevel : ∀ level, op ≠ .setLogLevel level) :
    ∀ s ∈ g.logSteps op, s.level? = none := by
  by_cases hmirror : ∃ path, op = .setLogMirror path
  · obtain ⟨path, rfl⟩ := hmirror
    exact List.forall_mem_singleton.2 rfl
  · exact fun s hs => (g.modest_logSteps hlevel (not_exists.1 hmirror) s hs).keepsLevel

/-- Gateways that differ in their logs, in what files hold, and in their workers. -/
structure Akin (g g' : Gateway) : Prop where
  engine : g.toEngine.muted = g'.toEngine.muted
  stage : g.stage = g'.stage
  log : g.log.SameFiles g'.log

theorem Akin.symm {g g' : Gateway} (h : g.Akin g') : g'.Akin g :=
  ⟨h.engine.symm, h.stage.symm, h.log.symm⟩

theorem Akin.trans {g g' g'' : Gateway} (h : g.Akin g') (h' : g'.Akin g'') : g.Akin g'' :=
  ⟨h.engine.trans h'.engine, h.stage.trans h'.stage, h.log.trans h'.log⟩

section
variable {g g' : Gateway} (h : g.Akin g')
include h

theorem Akin.mirrorTo (path : String) :
    (∃ error, g.mirrorTo path = .error error ∧ g'.mirrorTo path = .error error) ∨
    ∃ m m', g.mirrorTo path = .ok m ∧ g'.mirrorTo path = .ok m' ∧ m.Akin m' := by
  unfold Gateway.mirrorTo
  rcases h.log.mirrorTo path with ⟨error, hp, hq⟩ | ⟨p, q, hp, hq, hlog⟩
  · rw [hp, hq]
    exact .inl ⟨_, rfl, rfl⟩
  · rw [hp, hq]
    exact .inr ⟨_, _, rfl, rfl, h.engine, h.stage, hlog⟩

theorem Akin.sameThrough : SameThrough id g g' := ⟨h.engine, h.stage⟩

end

end Gateway

def Answer.silent : Answer → Answer
  | accepted _ => done
  | entries _ => done
  | answer => answer

namespace Gateway

theorem akin_answer {g g' : Gateway} (h : g.Akin g') {op : Operation}
    (hmirror : ∀ path, op ≠ .setLogMirror path) :
    (g.perform op).1.map Answer.silent = (g'.perform op).1.map Answer.silent ∧
      (g.perform op).2.toEngine.muted = (g'.perform op).2.toEngine.muted ∧
      (g.perform op).2.stage = (g'.perform op).2.stage := by
  have hheedless : op.heedless = true →
      (g.perform op).1.map Answer.silent = (g'.perform op).1.map Answer.silent ∧
      (g.perform op).2.toEngine.muted = (g'.perform op).2.toEngine.muted ∧
      (g.perform op).2.stage = (g'.perform op).2.stage := by
    intro hop
    obtain ⟨hanswer, hengine, hstage⟩ := h.sameThrough.perform hop
    exact ⟨congrArg (Except.map Answer.silent) hanswer, hengine, hstage⟩
  cases op with
  | change c =>
    obtain ⟨hresult, hengine⟩ := (Engine.deaf_change c).congr h.engine
    exact ⟨congrArg (fun r : Except GatewayError Unit => (r.map fun _ => Answer.done).map
      Answer.silent) hresult,
      hengine, h.stage⟩
  | decide process destination protocol =>
    obtain ⟨hresult, hengine⟩ :=
      (Engine.deaf_decide process destination protocol).congr h.engine
    exact ⟨congrArg (fun d => Except.ok (Answer.decision d)) hresult, hengine, h.stage⟩
  | report event payload => exact ⟨rfl, h.engine, h.stage⟩
  | readLog => exact ⟨rfl, h.engine, h.stage⟩
  | setLogMirror path => exact absurd rfl (hmirror path)
  | _ => exact hheedless rfl

/-- What a call offers the log does not depend on the log. -/
theorem offers_logSteps {g g' : Gateway} (h : g.Akin g') (op : Operation) :
    offers (g.logSteps op) = offers (g'.logSteps op) := by
  cases op with
  | start =>
    have hattempts : g.attempts = g'.attempts := Engine.eq_of_muted (fun _ => rfl) h.engine
    rw [logSteps, logSteps, h.stage, hattempts]
  | stop =>
    have hdown : g.tearDownSteps = g'.tearDownSteps := Engine.eq_of_muted (fun _ => rfl) h.engine
    rw [logSteps, logSteps, h.stage, hdown]
    split
    · rw [offers_append, offers_append, offers_of_quiet (quiet_endSteps _ _),
        offers_of_quiet (quiet_endSteps _ _)]
    · rfl
  | addProxy endpoint protocols credentials start =>
    exact congrArg offers (Engine.addSteps_of_muted h.engine endpoint protocols credentials start)
  | change c =>
    exact congrArg offers (Engine.eq_of_muted (f := (·.changeSteps c)) (fun _ => rfl) h.engine)
  | decide process destination protocol =>
    exact congrArg offers (Engine.eq_of_muted
      (f := fun e => [LogStep.message .debug (Engine.decisionText process
      destination protocol (e.evaluate process destination.address.canonical protocol))])
        (fun _ => rfl) h.engine)
  | flush =>
    have hnone : ∀ g : Gateway, offers (g.logSteps .flush) = [] := by
      intro g
      rw [logSteps]
      split
      · rfl
      · exact offers_of_quiet (DrainWorker.quiet_work _ _ _)
    rw [hnone, hnone]
  | _ => rfl

theorem akin_perform {g g' : Gateway} (h : g.Akin g') {op : Operation}
    (hlevel : ∀ level, op ≠ .setLogLevel level) :
    (g.perform op).1.map Answer.silent = (g'.perform op).1.map Answer.silent ∧
      (g.perform op).2.Akin (g'.perform op).2 := by
  by_cases hmirror : ∃ path, op = .setLogMirror path
  · obtain ⟨path, rfl⟩ := hmirror
    rcases h.mirrorTo path with ⟨error, hp, hq⟩ | ⟨m, m', hp, hq, hakin⟩
    · rw [perform, perform, hp, hq]
      exact ⟨rfl, h⟩
    · rw [perform, perform, hp, hq]
      exact ⟨rfl, hakin⟩
  · -- every other call opens nothing, so its steps leave both logs with the files that they had
    have hsteps := fun g => modest_logSteps g hlevel (not_exists.1 hmirror)
    obtain ⟨hanswer, hengine, hstage⟩ := akin_answer h (not_exists.1 hmirror)
    have hlog := h.log.of_modest (g.leads_perform op) (hsteps g) (g'.leads_perform op) (hsteps g')
    exact ⟨hanswer, hengine, hstage, hlog⟩

theorem akin_take {g g' : Gateway} (h : g.Akin g') (s : BuildStep) :
    (g.take s).1 = (g'.take s).1 ∧ (g.take s).2.Akin (g'.take s).2 := by
  cases s with
  | mirror path =>
    rcases h.mirrorTo path with ⟨error, hp, hq⟩ | ⟨m, m', hp, hq, hakin⟩
    · rw [take, take, hp, hq]
      exact ⟨rfl, h⟩
    · rw [take, take, hp, hq]
      exact ⟨rfl, hakin⟩
  | register s =>
    obtain ⟨hanswer, hengine⟩ :=
      (Engine.deaf_register s.endpoint s.protocols s.credentials s.start).congr h.engine
    have hleads := fun g : Gateway => g.leads_register s.endpoint s.protocols s.credentials s.start
    have hsteps := fun g : Gateway => g.modest_registerSteps s.endpoint s.protocols
    have hlog := h.log.of_modest (hleads g) (hsteps g) (hleads g') (hsteps g')
    exact ⟨congrArg (Except.map fun _ => ()) hanswer, hengine, h.stage, hlog⟩
  | change c =>
    obtain ⟨hanswer, hengine⟩ := (Engine.deaf_change c).congr h.engine
    have hsteps := fun g : Gateway => g.modest_changeSteps c
    have hlog := h.log.of_modest (g.leads_change c) (hsteps g) (g'.leads_change c) (hsteps g')
    exact ⟨hanswer, hengine, h.stage, hlog⟩

theorem akin_takeAll {g g' : Gateway} (h : g.Akin g') (steps : List BuildStep) :
    (g.takeAll steps).1 = (g'.takeAll steps).1 ∧
      (g.takeAll steps).2.Akin (g'.takeAll steps).2 := by
  induction steps generalizing g g' with
  | nil => exact ⟨rfl, h⟩
  | cons s steps ih =>
    obtain ⟨hanswer, hakin⟩ := akin_take h s
    rw [takeAll, takeAll]
    generalize g.take s = result at hanswer hakin ⊢
    generalize g'.take s = result' at hanswer hakin ⊢
    obtain ⟨answer, m⟩ := result
    obtain ⟨answer', m'⟩ := result'
    obtain rfl : answer = answer' := hanswer
    cases answer with
    | error error => exact ⟨rfl, hakin⟩
    | ok u => exact ih hakin

end Gateway

namespace Occurrence

def ofLog : Occurrence → Bool
  | log _ _ => true
  | _ => false

/-- An occurrence that leaves the threshold as it is. Whoever else is at work on the log takes
entries out of it, or sets it up, and offers it nothing. -/
def Plain : Occurrence → Prop
  | building _ => True
  | call op => ∀ level, op ≠ .setLogLevel level
  | log s _ => s.Quiet

def level? : Occurrence → Option Level
  | call (.setLogLevel level) => some level
  | log s _ => s.level?
  | _ => none

theorem Plain.level?_eq {x : Occurrence} (hx : x.Plain) : x.level? = none := by
  cases x with
  | building s => rfl
  | call op =>
    cases op with
    | setLogLevel level => exact absurd rfl (hx level)
    | _ => rfl
  | log s worker => exact hx.keepsLevel

end Occurrence

namespace Gateway

def replies (g : Gateway) : List Occurrence → List (Except GatewayError Answer)
  | [] => []
  | .call op :: xs => (g.perform op).1 :: (g.meet (.call op)).replies xs
  | x :: xs => (g.meet x).replies xs

theorem offers_stepsOf {g g' : Gateway} (h : g.Akin g') {x : Occurrence} (hx : x.ofLog = false) :
    offers (g.stepsOf x) = offers (g'.stepsOf x) := by
  cases x with
  | building s =>
    cases s with
    | mirror path => rfl
    | register s =>
      exact congrArg offers
        (Engine.eq_of_muted (f := (·.registerSteps s.endpoint s.protocols))
          (fun _ => rfl) h.engine)
    | change c =>
      exact congrArg offers (Engine.eq_of_muted (f := (·.changeSteps c)) (fun _ => rfl) h.engine)
  | call op => exact offers_logSteps h op
  | log s worker => cases hx

theorem keepsLevel_stepsOf (g : Gateway) {x : Occurrence} (hx : x.level? = none) :
    ∀ s ∈ g.stepsOf x, s.level? = none := by
  cases x with
  | building s =>
    cases s with
    | mirror path => exact List.forall_mem_singleton.2 rfl
    | register s =>
      exact fun t ht => (g.modest_registerSteps s.endpoint s.protocols t ht).keepsLevel
    | change c => exact fun t ht => (g.modest_changeSteps c t ht).keepsLevel
  | call op =>
    refine g.keepsLevel_logSteps fun level hop => ?_
    rw [hop] at hx
    cases hx
  | log s worker => exact List.forall_mem_singleton.2 hx

theorem keepsLevel_chronicle (g : Gateway) {xs : List Occurrence} (hxs : ∀ x ∈ xs, x.Plain) :
    ∀ s ∈ g.chronicle xs, s.level? = none := by
  induction xs generalizing g with
  | nil => exact List.forall_mem_nil _
  | cons x xs ih =>
    obtain ⟨hx, hxs⟩ := List.forall_mem_cons.1 hxs
    exact List.forall_mem_append.2 ⟨g.keepsLevel_stepsOf hx.level?_eq, ih _ hxs⟩

theorem offers_chronicle_cons (g : Gateway) (x : Occurrence) (xs : List Occurrence) :
    offers (g.chronicle (x :: xs)) = offers (g.stepsOf x) ++ offers ((g.meet x).chronicle xs) :=
  offers_append _ _

/-- What a gateway comes to, and a gateway akin to it with nobody else at work on its log. -/
theorem akin_lived {g g' : Gateway} (h : g.Akin g') {xs : List Occurrence}
    (hxs : ∀ x ∈ xs, x.Plain) :
    let ys := xs.filter fun x => !x.ofLog
    (g.lived xs).Akin (g'.lived ys) ∧
      (g.replies xs).map (Except.map Answer.silent) =
        (g'.replies ys).map (Except.map Answer.silent) ∧
      offers (g.chronicle xs) = offers (g'.chronicle ys) := by
  intro ys
  induction xs generalizing g g' with
  | nil => exact ⟨h, rfl, rfl⟩
  | cons x xs ih =>
    obtain ⟨hx, hrest⟩ := List.forall_mem_cons.1 hxs
    have hoffered : x.ofLog = false → ∀ {as bs : List LogStep}, offers as = offers bs →
        offers (g.stepsOf x) ++ offers as = offers (g'.stepsOf x) ++ offers bs :=
      fun hlog _ _ hrest => congrArg₂ (· ++ ·) (offers_stepsOf h hlog) hrest
    cases x with
    | building s =>
      obtain ⟨hlast, hanswers, hoffers⟩ := ih (akin_take h s).2 hrest
      refine ⟨hlast, hanswers, ?_⟩
      exact (offers_chronicle_cons _ _ _).trans
        ((hoffered rfl hoffers).trans (offers_chronicle_cons _ _ _).symm)
    | call op =>
      obtain ⟨hanswer, hakin⟩ := akin_perform h hx
      obtain ⟨hlast, hanswers, hoffers⟩ := ih hakin hrest
      refine ⟨hlast, congrArg₂ List.cons hanswer hanswers, ?_⟩
      exact (offers_chronicle_cons _ _ _).trans
        ((hoffered rfl hoffers).trans (offers_chronicle_cons _ _ _).symm)
    | log s worker =>
      -- only the first gateway takes this step, and stays akin to the other
      have hlog : (g.log.perform s).SameFiles g'.log :=
        h.log.of_modest (.step g.log s) (List.forall_mem_singleton.2 hx.toModest) (.refl g'.log)
          (List.forall_mem_nil _)
      obtain ⟨hlast, hanswers, hoffers⟩ :=
        ih (g := g.meet (.log s worker)) ⟨h.engine, h.stage, hlog⟩ hrest
      refine ⟨hlast, hanswers, ?_⟩
      rw [offers_chronicle_cons, stepsOf,
        offers_of_quiet (List.forall_mem_singleton.2 hx), List.nil_append]
      exact hoffers

end Gateway
end SocksGateway
