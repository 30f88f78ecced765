import SocksGateway.Proofs.Engine.Running
import SocksGateway.Proofs.Log.Leads

namespace SocksGateway

/-- A proxy that a relay was asked to start, and why it refused if it did. -/
structure Attempt where
  proxy : Proxy
  failure : Option RelayFailure

namespace Attempt

def call (a : Attempt) : RelayCall :=
  match a.failure with
  | none => .started a.proxy.handle a.proxy.endpoint
  | some _ => .refused a.proxy.handle a.proxy.endpoint

def error? (a : Attempt) : Option GatewayError :=
  a.failure.map fun failure => .startFailed a.proxy.handle failure.reason

def result (a : Attempt) : Except GatewayError Unit :=
  match a.error? with
  | none => .ok ()
  | some error => .error error

def logStep (a : Attempt) : LogStep :=
  match a.failure with
  | none => .append .info .connected (Engine.handleData a.proxy.handle)
  | some failure => .message .error ("Failed to start proxy " ++
      Engine.placeText a.proxy.handle a.proxy.endpoint ++ ": " ++ failure.reason)

end Attempt

/-- The attempts to start one proxy after the other. What a relay answers may depend on the attempts
before. -/
def Relay.attempts (r : Relay) (calls : List RelayCall) : List Proxy → List Attempt
  | [] => []
  | p :: ps =>
    let a : Attempt := ⟨p, r.answer calls p⟩
    a :: r.attempts (calls ++ [a.call]) ps

def broughtUp (as : List Attempt) : List Handle :=
  (as.filter fun a => a.failure.isNone).map fun a => a.proxy.handle

theorem mem_broughtUp {as : List Attempt} {h : Handle} :
    h ∈ broughtUp as ↔ ∃ a ∈ as, a.proxy.handle = h ∧ a.failure = none := by
  simp only [broughtUp, List.mem_map, List.mem_filter, Option.isNone_iff_eq_none]
  constructor
  · intro hx
    obtain ⟨a, ⟨ha, hf⟩, hh⟩ := hx
    exact ⟨a, ha, hh, hf⟩
  · intro hx
    obtain ⟨a, ha, hh, hf⟩ := hx
    exact ⟨a, ⟨ha, hf⟩, hh⟩

theorem broughtUp_cons (a : Attempt) (as : List Attempt) :
    broughtUp (a :: as) = broughtUp [a] ++ broughtUp as := by
  rw [broughtUp, broughtUp, broughtUp, ← List.map_append,
    ← List.filter_append, List.singleton_append]

namespace Relay

theorem proxies_attempts (r : Relay) (calls : List RelayCall) (ps : List Proxy) :
    (r.attempts calls ps).map (·.proxy) = ps := by
  induction ps generalizing calls with
  | nil => rfl
  | cons p ps ih => rw [attempts, List.map_cons, ih]

theorem failure_of_attempts {r : Relay} {calls : List RelayCall} {ps : List Proxy}
    {before after : List Attempt} {a : Attempt} (h : r.attempts calls ps = before ++ a :: after) :
    a.failure = r.answer (calls ++ before.map (·.call)) a.proxy := by
  induction ps generalizing calls before with
  | nil => cases before <;> cases h
  | cons p ps ih =>
    cases before with
    | nil =>
      obtain ⟨rfl, -⟩ := List.cons.inj h
      rw [List.map_nil, List.append_nil]
    | cons b before =>
      obtain ⟨rfl, htail⟩ := List.cons.inj h
      rw [ih htail, List.append_assoc, List.singleton_append, List.map_cons]

end Relay

namespace Registry

def setStates (r : Registry) (hs : List Handle) (state : ProxyState) : Registry :=
  hs.foldl (fun r h => r.setState h state) r

theorem proxies_setStates (r : Registry) (hs : List Handle) (state : ProxyState) :
    (r.setStates hs state).proxies = r.proxies.map fun p =>
      if p.handle ∈ hs then { p with state } else p := by
  induction hs generalizing r with
  | nil => simp [setStates]
  | cons h hs ih =>
    show ((r.setState h state).setStates hs state).proxies = _
    rw [ih, setState, List.map_map]
    refine List.map_congr_left fun p _ => ?_
    rw [Function.comp_apply]
    by_cases he : p.handle = h
    · simp [he]
    · simp [he]

theorem setStates_append (r : Registry) (hs ks : List Handle) (state : ProxyState) :
    r.setStates (hs ++ ks) state = (r.setStates hs state).setStates ks state :=
  List.foldl_append

theorem get?_setStates_of_notMem {r : Registry} {hs : List Handle} {h : Handle} (hn : h ∉ hs)
    (state : ProxyState) :
    (r.setStates hs state).get? h = r.get? h := by
  induction hs generalizing r with
  | nil => rfl
  | cons k hs ih =>
    obtain ⟨hk, hn⟩ := not_or.1 (mt List.mem_cons.2 hn)
    show ((r.setState k state).setStates hs state).get? h = _
    rw [ih hn, get?_setState]
    simp [hk]

theorem isUp_setStates_running {r : Registry} {hs : List Handle}
    (hc : ∀ k ∈ hs, r.contains k = true) (h : Handle) :
    (r.setStates hs .running).isUp h = true ↔ h ∈ hs ∨ r.isUp h = true := by
  induction hs generalizing r with
  | nil => simp [setStates]
  | cons k hs ih =>
    obtain ⟨hk, hc⟩ := List.forall_mem_cons.1 hc
    have hrest : ∀ l ∈ hs, (r.setState k .running).contains l = true := by
      intro l hl
      rw [contains, get?_setState, Option.isSome_map]
      exact hc l hl
    show ((r.setState k .running).setStates hs .running).isUp h = true ↔ _
    rw [ih hrest, isUp_setRunning hk, Bool.or_eq_true, beq_iff_eq, List.mem_cons,
      or_left_comm, or_assoc]

end Registry

namespace Engine

theorem leads_remark_append (e : Engine) (severity : Severity) (text : String) (level : Level)
    (event : EventKind) (payload : Payload) :
    e.log.Leads [.append level event payload]
      ((e.diagnose severity text).append level event payload).log :=
  (Pipeline.Leads.remark e.log severity text .caller).trans (.step _ (.append level event payload))

theorem leads_remark_message (e : Engine) (severity : Severity) (text : String) (level : Level)
    (text' : String) :
    e.log.Leads [.message level text'] ((e.diagnose severity text).message level text').log :=
  (Pipeline.Leads.remark e.log severity text .caller).trans (.step _ (.message level text'))

theorem startProxy_attempt {e : Engine} {p : Proxy} (hp : e.registry.get? p.handle = some p)
    (hr : p.isRunning = false) :
    let a : Attempt := ⟨p, e.relay.answer e.calls.toList p⟩
    ∃ log, e.log.Leads [a.logStep] log ∧ e.startProxy p.handle = (a.result,
      { e with
        calls := e.calls.push a.call
        registry := e.registry.setStates (broughtUp [a]) .running
        log }) := by
  intro a
  cases ha : e.relay.answer e.calls.toList p with
  | none =>
    have hup : a = ⟨p, none⟩ := congrArg (Attempt.mk p) ha
    rw [startProxy_of_taken hp hr ha, hup]
    let up : Engine := { e.call (.started p.handle p.endpoint) with
      registry := e.registry.setState p.handle .running }
    exact ⟨_, up.leads_remark_append .info _ .info .connected (handleData p.handle), rfl⟩
  | some failure =>
    have hdown : a = ⟨p, some failure⟩ := congrArg (Attempt.mk p) ha
    rw [startProxy_of_refused hp hr ha, hdown]
    exact ⟨_, (e.call (.refused p.handle p.endpoint)).leads_remark_message
      .error _ .error _, rfl⟩

theorem startEach_cons {e m : Engine} {a : Attempt} {h : Handle}
    (hm : e.startProxy h = (a.result, m)) (hs : List Handle) :
    e.startEach (h :: hs) = (a.error?.toList ++ (m.startEach hs).1, (m.startEach hs).2) := by
  rw [startEach, hm]
  obtain ⟨p, failure⟩ := a
  cases failure <;> rfl

/-- A number of proxies that are down are tried in turn, and each that fails is an error. -/
theorem startEach_eq {ps : List Proxy} {e : Engine}
    (hps : ∀ p ∈ ps, e.registry.get? p.handle = some p ∧ p.isRunning = false)
    (hd : ps.Pairwise fun p q => p.handle ≠ q.handle) :
    let as := e.relay.attempts e.calls.toList ps
    ∃ log, e.log.Leads (as.map (·.logStep)) log ∧
      e.startEach (ps.map (·.handle)) = (as.filterMap (·.error?),
      { e with
        calls := e.calls ++ as.map (·.call)
        registry := e.registry.setStates (broughtUp as) .running
        log }) := by
  intro as
  induction ps generalizing e with
  | nil =>
    exact ⟨e.log,
      .refl e.log, by simp [as, startEach, Relay.attempts, broughtUp, Registry.setStates]⟩
  | cons p ps ih =>
    obtain ⟨⟨hp, hr⟩, hps⟩ := List.forall_mem_cons.1 hps
    obtain ⟨hne, hd⟩ := List.pairwise_cons.1 hd
    let a : Attempt := ⟨p, e.relay.answer e.calls.toList p⟩
    obtain ⟨log, hlog, hs⟩ := startProxy_attempt hp hr
    let m : Engine :=
      { e with
        calls := e.calls.push a.call
        registry := e.registry.setStates (broughtUp [a]) .running
        log }
    -- the proxies that are still to be tried have other handles, so they are down as before
    have hrest : ∀ q ∈ ps, m.registry.get? q.handle = some q ∧ q.isRunning = false := by
      intro q hq
      have hother : q.handle ∉ broughtUp [a] := by
        intro hx
        obtain ⟨b, hb, hh, -⟩ := mem_broughtUp.1 hx
        obtain rfl := List.mem_singleton.1 hb
        exact hne q hq hh
      exact ⟨(Registry.get?_setStates_of_notMem hother _).trans (hps q hq).1, (hps q hq).2⟩
    obtain ⟨log', hlog', h⟩ := ih hrest hd
    have hcalls : m.calls.toList = e.calls.toList ++ [a.call] := Array.toList_push
    have has : as = a :: m.relay.attempts m.calls.toList ps := by rw [hcalls]; rfl
    have hup : m.registry.setStates (broughtUp (m.relay.attempts m.calls.toList ps)) .running =
        e.registry.setStates (broughtUp as) .running := by
      rw [has, broughtUp_cons, Registry.setStates_append]
    refine ⟨log', ?_, ?_⟩
    · rw [has]
      exact hlog.trans hlog'
    · have herrors : as.filterMap (·.error?) =
          a.error?.toList ++ (m.relay.attempts m.calls.toList ps).filterMap (·.error?) := by
        rw [has, List.filterMap_cons]
        cases a.error? <;> rfl
      rw [List.map_cons, startEach_cons (a := a) hs, h, hup, herrors, has]
      simp [m]

def attempts (e : Engine) : List Attempt :=
  e.relay.attempts e.calls.toList (e.registry.proxies.filter (·.isPending))

theorem startPending_eq (e : Engine) : ∃ log, e.log.Leads (e.attempts.map (·.logStep)) log ∧
    e.startPending = (e.attempts.filterMap (·.error?),
      { e with
        calls := e.calls ++ e.attempts.map (·.call)
        registry := e.registry.setStates (broughtUp e.attempts) .running
        log }) := by
  refine startEach_eq (fun p hp => ?_) ?_
  · obtain ⟨hm, hpending⟩ := List.mem_filter.1 hp
    have hdown := (Bool.and_eq_true_iff.1 hpending).2
    exact ⟨(e.registry.get?_eq_some_iff p.handle p).2 ⟨hm, rfl⟩, by simpa using hdown⟩
  · exact (e.registry.ascending.filter _).imp fun hlt heq => by simp [heq] at hlt

def partingStep (p : Proxy) : LogStep := .append .info .disconnected (handleData p.handle)

theorem stopEach_eq (ps : List Proxy) (e : Engine) :
    ∃ log, e.log.Leads (ps.map partingStep) log ∧
    ps.foldl stopProxy e =
      { e with
        calls := e.calls ++ ps.map fun p => RelayCall.stopped p.handle p.endpoint
        registry := e.registry.setStates (ps.map (·.handle)) .stopped
        log } := by
  induction ps generalizing e with
  | nil => exact ⟨e.log, .refl e.log, by simp [Registry.setStates]⟩
  | cons p ps ih =>
    obtain ⟨log, hl, h⟩ := ih (e.stopProxy p)
    have hlog : e.log.Leads [partingStep p] (e.stopProxy p).log :=
      ({ e.call (.stopped p.handle p.endpoint) with
        registry := e.registry.setState p.handle .stopped } : Engine).leads_remark_append _ _ _ _ _
    refine ⟨log, hlog.trans hl, ?_⟩
    rw [List.foldl_cons, h]
    simp [Registry.setStates, stopProxy, call, diagnose, append]

end Engine
end SocksGateway
