import SocksGateway.Proofs.Gateway.Construction
import SocksGateway.Proofs.Gateway.LastBatch
import SocksGateway.Proofs.Gateway.Lifecycle

/-!
Everything that a gateway does, as its log sees it. Each call comes to a number of steps of the log,
and nothing else is done to the log but to make remarks.
-/
namespace SocksGateway

namespace RuleChange

def rangeAnnouncements (verb process range : String) : List String :=
  (Network.ofRangeText? range).toList.map (Engine.rangeText verb · process)

def announcements : RuleChange → List String
  | associate process h => ["Associated process " ++ process ++ " with " ++ h.toText]
  | exclude process => ["Excluded process " ++ process]
  | allow process range => rangeAnnouncements "Included" process range
  | dropAllowed process range => rangeAnnouncements "Removed included" process range
  | deny process range => rangeAnnouncements "Excluded" process range
  | dropDenied process range => rangeAnnouncements "Removed excluded" process range

end RuleChange

namespace Engine

open RuleChange in
theorem announced_of_range {e : Engine} {verb process range : String} {r : Rule}
    {f : Network → Except GatewayError Rule}
    {g : Network → Except GatewayError Unit × Engine} (h : byRange range f = .ok r)
    (hg : ∀ n, f n = .ok r →
      g n = (.ok (), e.adopt (e.policy.put r) (rangeText verb n process))) :
    ∃ text, rangeAnnouncements verb process range = [text] ∧
      e.withRange range g = (.ok (), e.adopt (e.policy.put r) text) := by
  obtain ⟨n, hn, hr⟩ := byRange_eq_ok h
  refine ⟨rangeText verb n process, ?_, ?_⟩
  · rw [rangeAnnouncements, hn]
    rfl
  · unfold withRange
    simp only [hn]
    exact hg n hr

theorem adoptRemoval_of_without {s : NetworkSet} {n : Network} {process : String}
    {f : NetworkSet → Rule} {r : Rule} (h : RuleChange.without s n process f = .ok r)
    (e : Engine) (verb : String) :
    e.adoptRemoval (if s.has n then some (e.policy.put (f (s.erase n))) else none) verb n process =
      (.ok (), e.adopt (e.policy.put r) (rangeText verb n process)) := by
  unfold RuleChange.without at h
  split at h
  next hhas =>
    cases h
    rw [if_pos hhas]
    rfl
  next => cases h

open RuleChange in
theorem change_announced {e : Engine} {c : RuleChange} {r : Rule} (h : e.revised c = .ok r) :
    ∃ text, c.announcements = [text] ∧
      e.change c = (.ok (), e.adopt (e.policy.put r) text) := by
  cases c with
  | associate p k =>
    rw [revised, revise] at h
    split at h
    next hk =>
      cases h
      exact ⟨_, rfl, if_pos hk⟩
    next => cases h
  | exclude p => cases h; exact ⟨_, rfl, rfl⟩
  | allow p range =>
    refine announced_of_range h fun n hn => ?_
    cases hn
    rfl
  | deny p range =>
    refine announced_of_range h fun n hn => ?_
    cases hn
    rfl
  | dropAllowed p range => exact announced_of_range h fun n hn => adoptRemoval_of_without hn e _
  | dropDenied p range => exact announced_of_range h fun n hn => adoptRemoval_of_without hn e _

def changeSteps (e : Engine) (c : RuleChange) : List LogStep :=
  match e.revised c with
  | .ok _ => c.announcements.map (.message .info ·)
  | .error _ => []

def registerSteps (e : Engine) (endpoint : String) (protocols : ProtocolMask) : List LogStep :=
  match Endpoint.ofProxyText? endpoint with
  | none => []
  | some address => [.message .info
      ("Added " ++ ("SOCKS5 proxy " ++ placeText e.registry.nextHandle address ++ " (" ++
        protocols.text ++ ")"))]

def startSteps (e : Engine) (h : Handle) : List LogStep :=
  match e.registry.get? h with
  | none => []
  | some p => if p.isRunning then [] else [(Attempt.mk p (e.relay.answer e.calls.toList p)).logStep]

def addSteps (e : Engine) (endpoint : String) (protocols : ProtocolMask)
    (credentials : Option Credentials) (start : Bool) : List LogStep :=
  e.registerSteps endpoint protocols ++
    match e.register endpoint protocols credentials start with
    | (.error _, _) => []
    | (.ok h, e) => if start then e.startSteps h else []

def tearDownSteps (e : Engine) : List LogStep :=
  e.registry.running.map partingStep ++ [.message .info (Gateway.stoppedText e)]

theorem leads_change (e : Engine) (c : RuleChange) :
    e.log.Leads (e.changeSteps c) (e.change c).2.log := by
  unfold changeSteps
  cases hr : e.revised c with
  | ok r =>
    obtain ⟨text, hc, h⟩ := change_announced hr
    dsimp only
    rw [h, hc]
    exact ({ e with policy := e.policy.put r } : Engine).leads_remark_message _ _ _ _
  | error error =>
    rw [change_of_revised_error hr]
    exact .refl e.log

theorem leads_register (e : Engine) (endpoint : String) (protocols : ProtocolMask)
    (credentials : Option Credentials) (autostart : Bool) :
    e.log.Leads (e.registerSteps endpoint protocols)
      (e.register endpoint protocols credentials autostart).2.log := by
  unfold registerSteps register
  cases Endpoint.ofProxyText? endpoint with
  | none => exact .refl e.log
  | some address =>
    let named : Engine :=
      { e with registry := e.registry.insert address credentials protocols autostart }
    exact named.leads_remark_message _ _ _ _

theorem leads_startProxy (e : Engine) (h : Handle) :
    e.log.Leads (e.startSteps h) (e.startProxy h).2.log := by
  unfold startSteps
  cases hp : e.registry.get? h with
  | none =>
    rw [startProxy_of_unknown hp]
    exact .refl e.log
  | some p =>
    cases hr : p.isRunning with
    | true =>
      dsimp only
      rw [if_pos hr, startProxy_of_running hp hr]
      exact .refl e.log
    | false =>
      obtain rfl := Registry.handle_of_get? hp
      dsimp only
      obtain ⟨log, hlog, hs⟩ := startProxy_attempt hp hr
      rw [if_neg (by rw [hr]; exact Bool.false_ne_true), hs]
      exact hlog

theorem leads_addProxy (e : Engine) (endpoint : String) (protocols : ProtocolMask)
    (credentials : Option Credentials) (start : Bool) :
    e.log.Leads (e.addSteps endpoint protocols credentials start)
      (e.addProxy endpoint protocols credentials start).2.log := by
  have hr := e.leads_register endpoint protocols credentials start
  unfold addSteps addProxy
  generalize e.register endpoint protocols credentials start = result at hr ⊢
  obtain ⟨answer, m⟩ := result
  refine hr.trans ?_
  cases answer with
  | error error => exact .refl m.log
  | ok h =>
    cases start with
    | false => exact .refl m.log
    | true =>
      have hs := m.leads_startProxy h
      dsimp only
      rw [if_pos rfl, if_pos rfl]
      generalize m.startProxy h = result at hs ⊢
      obtain ⟨answer, m'⟩ := result
      cases answer <;> exact hs

theorem leads_decide (e : Engine) (process : String) (destination : Endpoint)
    (protocol : Protocol) :
    e.log.Leads [.message .debug (decisionText process destination protocol
      (e.evaluate process destination.address.canonical protocol))]
        (e.decide process destination protocol).2.log := by
  unfold decide
  dsimp only
  rw [note_eq]
  exact e.leads_remark_message .debug _ .debug _

theorem leads_tearDown (e : Engine) : e.log.Leads e.tearDownSteps (Gateway.tearDown e).log := by
  obtain ⟨log, hlog, h⟩ := stopEach_eq e.registry.running e
  have hdown : e.stopAll.2.log = log := by
    show (e.registry.running.foldl stopProxy e).log = log
    rw [h]
  refine hlog.trans ?_
  rw [← hdown]
  exact .step _ (.message .info (Gateway.stoppedText e))

end Engine

namespace DrainWorker

def work : Nat → DrainWorker → Pipeline → List LogStep
  | 0, _, _ => []
  | n + 1, w, log => .work w :: work n (w.step log).1 (w.step log).2

theorem leads_steps (n : Nat) (w : DrainWorker) (log : Pipeline) :
    log.Leads (work n w log) (steps n w log).2 := by
  induction n generalizing w log with
  | zero => exact .refl log
  | succ n ih => exact (Pipeline.Leads.step log (.work w)).trans (ih _ _)

theorem leads_stop (w : DrainWorker) (log : Pipeline) (grace : Duration) :
    log.Leads (work 3 w.requestShutdown log) (w.stop log grace).2 := by
  have h := leads_steps 3 w.requestShutdown log
  unfold stop turn
  dsimp only
  split
  · exact h
  · have hr := h.trans (.remark _ .warn (abandonedText grace) .caller)
    rw [List.append_nil] at hr
    exact hr

end DrainWorker

namespace Gateway

def endSteps (worker : Option DrainWorker) (log : Pipeline) : List LogStep :=
  match worker with
  | none => []
  | some w => DrainWorker.work 3 w.requestShutdown log

theorem leads_endWorker (worker : Option DrainWorker) (log : Pipeline) :
    log.Leads (endSteps worker log) (endWorker worker log) := by
  cases worker with
  | none => exact .refl log
  | some w =>
    have h := w.leads_stop log grace
    unfold endWorker endSteps
    dsimp only
    split
    · exact h
    · have hr := h.trans (.remark _ .warn "Log drain worker abandoned during stop" .caller)
      rw [List.append_nil] at hr
      exact hr

/-- What a call does to the log. -/
def logSteps (g : Gateway) : Operation → List LogStep
  | .start =>
    if g.stage = .started then [] else g.attempts.map (·.logStep) ++ [startedStep g.attempts]
  | .stop =>
    if g.stage = .started then g.tearDownSteps ++
      endSteps g.worker (tearDown g.toEngine).log else []
  | .addProxy endpoint protocols credentials start =>
    g.addSteps endpoint protocols credentials start
  | .change c => g.changeSteps c
  | .setLanBypass enabled =>
    [.message .info ("LAN bypass " ++ if enabled then "enabled" else "disabled")]
  | .decide process destination protocol =>
    [.message .debug (Engine.decisionText process destination protocol
      (g.evaluate process destination.address.canonical protocol))]
  | .report event payload => [.append (reportLevel event) event payload]
  | .subscribe s => [.subscribe s]
  | .flush => match g.worker with
    | none => []
    | some w => DrainWorker.work 3 w.requestFlush g.log
  | .readLog => [.take]
  | .setLogLevel level => [.setLevel level]
  | .setLogLimit limit => [.setLimit limit]
  | .setLogInterval interval => [.setInterval interval]
  | .setLogMirror path => [.mirrorTo path]

theorem leads_stop (g : Gateway) : g.log.Leads (g.logSteps .stop) g.stop.log := by
  rw [logSteps]
  split
  next h =>
    have hstop :=
      (g.leads_tearDown.trans (leads_endWorker g.worker (tearDown g.toEngine).log)).trans
      (.remark _ .info "Gateway stopped" .caller)
    rw [List.append_nil] at hstop
    rw [log_stop h]
    exact hstop
  next h =>
    rw [stop_of_ne h]
    exact .refl g.log

theorem leads_perform (g : Gateway) (op : Operation) :
    g.log.Leads (g.logSteps op) (g.perform op).2.log := by
  cases op with
  | start =>
    show g.log.Leads (g.logSteps .start) g.start.2.log
    rw [logSteps]
    split
    next h =>
      rw [start_of_started h]
      exact .refl g.log
    next h =>
      obtain ⟨log, hlog, hs⟩ := start_of_ne h
      rw [hs]
      exact hlog
  | stop => exact g.leads_stop
  | addProxy endpoint protocols credentials start =>
    exact g.leads_addProxy endpoint protocols credentials start
  | change c => exact g.leads_change c
  | decide process destination protocol => exact g.leads_decide process destination protocol
  | flush =>
    show g.log.Leads (g.logSteps .flush) g.flush.log
    rw [logSteps, flush]
    cases g.worker with
    | none => exact .refl g.log
    | some w => exact DrainWorker.leads_steps 3 w.requestFlush g.log
  | setLogMirror path =>
    have h : (g.perform (.setLogMirror path)).2.log = g.log.perform (.mirrorTo path) := by
      simp only [perform, mirrorTo, Pipeline.perform]
      cases g.log.mirrorTo path <;> rfl
    rw [h]
    exact .step g.log (.mirrorTo path)
  | _ => exact .step g.log _

end Gateway
end SocksGateway
