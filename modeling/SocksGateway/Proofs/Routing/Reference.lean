import SocksGateway.Engine.Decision
import SocksGateway.Proofs.Engine.Proxies
import SocksGateway.Proofs.Gateway.History
import SocksGateway.Proofs.Policy.Revision

/-!
What routing depends on. An idle engine starts no proxy and keeps no log; it serves the calls that
routing depends on as any gateway does, and all other calls leave the idle engine behind a gateway
as it is.
-/
namespace SocksGateway

def Proxy.idle (p : Proxy) : Proxy := { p with state := .stopped, autostart := false }

theorem Proxy.handle_idle (p : Proxy) : p.idle.handle = p.handle := rfl

namespace Registry

def idle (r : Registry) : Registry where
  proxies := r.proxies.map Proxy.idle
  numbered := by
    rw [List.length_map, ← r.numbered, List.map_map]
    rfl

theorem idle_setState (r : Registry) (h : Handle) (s : ProxyState) :
    (r.setState h s).idle = r.idle := by
  apply ext
  simp only [idle, setState, List.map_map]
  apply List.map_congr_left
  intro p _
  simp only [Function.comp_apply]
  split <;> rfl

@[simp] theorem nextHandle_idle (r : Registry) : r.idle.nextHandle = r.nextHandle :=
  r.nextHandle_map Proxy.handle_idle

theorem idle_insert (r : Registry) (e : Endpoint) (c : Option Credentials) (m : ProtocolMask)
    (a : Bool) :
    (r.insert e c m a).idle = (r.idle.insert e c m false).idle := by
  apply ext
  simp [idle, insert, nextHandle, size, Proxy.idle]

theorem get?_idle (r : Registry) (h : Handle) : r.idle.get? h = (r.get? h).map Proxy.idle :=
  r.get?_map Proxy.handle_idle h

@[simp] theorem contains_idle (r : Registry) (h : Handle) : r.idle.contains h = r.contains h :=
  r.contains_map Proxy.handle_idle h

theorem offer_idle (r : Registry) (h : Handle) (protocol : Protocol) :
    r.idle.offer h protocol = r.offer h protocol := by
  rw [offer, offer, get?_idle]
  cases r.get? h <;> rfl

end Registry

namespace Engine

def idle (e : Engine) : Engine := { registry := e.registry.idle, policy := e.policy, lan := e.lan }

@[simp] theorem idle_idle (e : Engine) : e.idle.idle = e.idle := by
  have h : e.registry.idle.idle = e.registry.idle := by
    apply Registry.ext
    simp [Registry.idle, Proxy.idle]
  rw [idle, idle, h]

theorem evaluate_idle (e : Engine) (process : String) (a : Address) (protocol : Protocol) :
    e.idle.evaluate process a protocol = e.evaluate process a protocol := by
  simp only [evaluate, idle, Rule.decide, Registry.offer_idle]

theorem decide_idle (e : Engine) (process : String) (destination : Endpoint) (protocol : Protocol) :
    (e.idle.decide process destination protocol).1 = (e.decide process destination protocol).1 :=
  e.evaluate_idle process destination.address.canonical protocol

theorem idle_markRunning (e : Engine) (p : Proxy) : (e.markRunning p).idle = e.idle := by
  show ({ registry := (e.registry.setState p.handle .running).idle, policy := e.policy,
          lan := e.lan } : Engine) = e.idle
  rw [Registry.idle_setState, idle]

theorem idle_stopProxy (e : Engine) (p : Proxy) : (e.stopProxy p).idle = e.idle := by
  show ({ registry := (e.registry.setState p.handle .stopped).idle, policy := e.policy,
          lan := e.lan } : Engine) = e.idle
  rw [Registry.idle_setState, idle]

theorem idle_startProxy (e : Engine) (h : Handle) : (e.startProxy h).2.idle = e.idle := by
  unfold startProxy
  split
  next => rfl
  next p _ =>
    split
    next => rfl
    next =>
      split
      next => exact e.idle_markRunning p
      next => rfl

theorem idle_startEach (e : Engine) (hs : List Handle) : (e.startEach hs).2.idle = e.idle :=
  startEach_keeps (P := fun x => x.idle = e.idle)
    (fun x h hx => (x.idle_startProxy h).trans hx) rfl hs

theorem idle_stopAll (e : Engine) : e.stopAll.2.idle = e.idle :=
  stopAll_keeps (P := fun x => x.idle = e.idle) (fun x p hx => (x.idle_stopProxy p).trans hx) rfl

end Engine

theorem Gateway.idle_bringUp (e : Engine) : (bringUp e).2.idle = e.idle := by
  obtain ⟨log, log', h⟩ := bringUp_eq e
  rw [h]
  exact Engine.idle_startEach { e with log } e.registry.pending

inductive RoutingCall
  | addProxy (endpoint : String) (protocols : ProtocolMask) (credentials : Option Credentials)
  | change (change : RuleChange)
  | setLanBypass (enabled : Bool)
  | decide (process : String) (destination : Endpoint) (protocol : Protocol)

def Operation.routing? : Operation → Option RoutingCall
  | .addProxy endpoint protocols credentials _ => some (.addProxy endpoint protocols credentials)
  | .change c => some (.change c)
  | .setLanBypass enabled => some (.setLanBypass enabled)
  | .decide process destination protocol => some (.decide process destination protocol)
  | _ => none

def Step.routing? : Step → Option RoutingCall
  | .call op => op.routing?
  | .logging _ => none

def assigned : Except GatewayError Answer → Except GatewayError Answer
  | .error (.startFailed h _) => .ok (.handle h)
  | answer => answer

def Operation.routingAnswer? (op : Operation) (answer : Except GatewayError Answer) :
    Option (Except GatewayError Answer) :=
  match op with
  | .addProxy _ _ _ _ => some (assigned answer)
  | op => op.routing?.map fun _ => answer

def Gateway.routingAnswers (g : Gateway) (steps : List Step) : List (Except GatewayError Answer) :=
  (g.transcript steps).filterMap fun t => t.1.routingAnswer? t.2

theorem exists_call_of_mem_routing {steps : List Step} {c : RoutingCall}
    (h : c ∈ steps.filterMap Step.routing?) :
    ∃ op, .call op ∈ steps ∧ op.routing? = some c := by
  obtain ⟨s, hs, hr⟩ := List.mem_filterMap.1 h
  cases s with
  | logging change => cases hr
  | call op => exact ⟨op, hs, hr⟩

namespace Engine

/-- How an idle engine answers, and stays idle. -/
def serve (e : Engine) : RoutingCall → Except GatewayError Answer × Engine
  | .addProxy endpoint protocols credentials =>
    ((e.register endpoint protocols credentials false).1.map .handle,
      (e.register endpoint protocols credentials false).2.idle)
  | .change c => ((e.change c).1.map fun _ => .done, (e.change c).2.idle)
  | .setLanBypass enabled => (.ok .done, { e with lan := ⟨enabled⟩ })
  | .decide process destination protocol =>
    (.ok (.decision (e.evaluate process destination.address.canonical protocol)), e)

def serveAll (e : Engine) : List RoutingCall → List (Except GatewayError Answer)
  | [] => []
  | c :: cs => (e.serve c).1 :: (e.serve c).2.serveAll cs

def served (e : Engine) (cs : List RoutingCall) : Engine := cs.foldl (fun e c => (e.serve c).2) e

theorem register_idle (e : Engine) (endpoint : String) (protocols : ProtocolMask)
    (credentials : Option Credentials) (autostart : Bool) :
    (e.idle.register endpoint protocols credentials false).1 =
        (e.register endpoint protocols credentials autostart).1 ∧
      (e.idle.register endpoint protocols credentials false).2.idle =
        (e.register endpoint protocols credentials autostart).2.idle := by
  cases h : Endpoint.ofProxyText? endpoint with
  | none =>
    rw [e.register_of_none protocols credentials h, e.idle.register_of_none protocols credentials h]
    exact ⟨rfl, e.idle_idle⟩
  | some address =>
    obtain ⟨log, hr⟩ := e.register_of_some protocols credentials h autostart
    obtain ⟨log', hr'⟩ := e.idle.register_of_some protocols credentials h false
    rw [hr, hr']
    have hi := e.registry.idle_insert address credentials protocols autostart
    exact ⟨congrArg Except.ok e.registry.nextHandle_idle,
      congrArg (fun registry => ({ registry, policy := e.policy, lan := e.lan } : Engine))
        hi.symm⟩

theorem revised_idle (e : Engine) (c : RuleChange) : e.idle.revised c = e.revised c := by
  have h : e.idle.registry.contains = e.registry.contains :=
    funext fun k => e.registry.contains_idle k
  rw [revised, h]
  rfl

theorem change_idle (e : Engine) (c : RuleChange) :
    (e.idle.change c).1 = (e.change c).1 ∧ (e.idle.change c).2.idle = (e.change c).2.idle := by
  have h := e.revised_idle c
  cases hr : e.revised c with
  | ok r =>
    obtain ⟨text, hc⟩ := change_of_revised_ok hr
    obtain ⟨text', hc'⟩ := change_of_revised_ok (h.trans hr)
    rw [hc, hc']
    refine ⟨rfl, ?_⟩
    show ({ e.idle.idle with policy := e.policy.put r } : Engine) =
        { e.idle with policy := e.policy.put r }
    rw [idle_idle]
  | error error =>
    rw [change_of_revised_error hr, change_of_revised_error (h.trans hr)]
    exact ⟨rfl, e.idle_idle⟩

end Engine

namespace Gateway

theorem addProxy_serves (e : Engine) (endpoint : String) (protocols : ProtocolMask)
    (credentials : Option Credentials) (start : Bool) :
    assigned ((e.addProxy endpoint protocols credentials start).1.map .handle) =
        (e.idle.serve (.addProxy endpoint protocols credentials)).1 ∧
      (e.addProxy endpoint protocols credentials start).2.idle =
        (e.idle.serve (.addProxy endpoint protocols credentials)).2 := by
  obtain ⟨h1, h2⟩ := e.register_idle endpoint protocols credentials start
  rw [Engine.serve, h1, h2]
  cases h : Endpoint.ofProxyText? endpoint with
  | none =>
    rw [e.register_of_none protocols credentials h, e.addProxy_of_none protocols credentials h]
    exact ⟨rfl, rfl⟩
  | some address =>
    obtain ⟨log', hr⟩ := e.register_of_some protocols credentials h start
    rw [hr]
    cases start with
    | false =>
      obtain ⟨log, ha⟩ := e.addProxy_unstarted protocols credentials h
      rw [ha]
      exact ⟨rfl, rfl⟩
    | true =>
      obtain ⟨log, p, hp, ha | ⟨failure, ha⟩⟩ := e.addProxy_started protocols credentials h
      · rw [ha, hp]
        exact ⟨rfl, Engine.idle_markRunning _ p⟩
      · rw [ha, hp]
        exact ⟨rfl, rfl⟩

theorem idle_start (g : Gateway) : g.start.2.idle = g.idle := by
  unfold start
  split
  · rfl
  · exact idle_bringUp _

theorem idle_stop (g : Gateway) : g.stop.idle = g.idle := by
  unfold stop
  split
  · exact Engine.idle_stopAll g.toEngine
  · rfl

theorem idle_flush (g : Gateway) : g.flush.idle = g.idle := by
  unfold flush
  split <;> rfl

theorem idle_perform (g : Gateway) {op : Operation} (h : op.routing? = none) :
    (g.perform op).2.idle = g.idle := by
  cases op with
  | start => exact g.idle_start
  | stop => exact g.idle_stop
  | addProxy endpoint protocols credentials start => cases h
  | change c => cases h
  | setLanBypass enabled => cases h
  | decide process destination protocol => cases h
  | report event payload => rfl
  | subscribe s => rfl
  | flush => exact g.idle_flush
  | readLog => rfl
  | setLogLevel level => rfl
  | setLogLimit limit => rfl
  | setLogInterval interval => rfl
  | setLogMirror path =>
    simp only [perform, mirrorTo]
    cases g.log.mirrorTo path <;> rfl

/-- As to routing a gateway serves a call as the idle engine behind it does. -/
theorem perform_serves (g : Gateway) {op : Operation} {c : RoutingCall} (h : op.routing? = some c) :
    op.routingAnswer? (g.perform op).1 = some (g.idle.serve c).1 ∧
      (g.perform op).2.idle = (g.idle.serve c).2 := by
  cases op with
  | addProxy endpoint protocols credentials start =>
    cases h
    obtain ⟨h1, h2⟩ := addProxy_serves g.toEngine endpoint protocols credentials start
    exact ⟨congrArg some h1, h2⟩
  | change change =>
    cases h
    obtain ⟨h1, h2⟩ := g.change_idle change
    refine ⟨?_, h2.symm⟩
    rw [Engine.serve, h1]
    rfl
  | setLanBypass enabled => cases h; exact ⟨rfl, rfl⟩
  | decide process destination protocol =>
    cases h
    have hd := g.evaluate_idle process destination.address.canonical protocol
    exact ⟨by rw [Engine.serve, hd]; rfl, rfl⟩
  | _ => cases h

theorem routingAnswer?_of_none {op : Operation} (h : op.routing? = none)
    (answer : Except GatewayError Answer) : op.routingAnswer? answer = none := by
  cases op <;> first | rfl | cases h

theorem routingAnswers_call_of_none (g : Gateway) {op : Operation} (h : op.routing? = none)
    (steps : List Step) :
    g.routingAnswers (.call op :: steps) = (g.next (.call op)).routingAnswers steps := by
  rw [routingAnswers, transcript, List.filterMap_cons]
  simp only [routingAnswer?_of_none h]
  rfl

theorem routingAnswers_call_of_some (g : Gateway) {op : Operation}
    {answer : Except GatewayError Answer} (h : op.routingAnswer? (g.perform op).1 = some answer)
    (steps : List Step) :
    g.routingAnswers (.call op :: steps) = answer :: (g.next (.call op)).routingAnswers steps := by
  rw [routingAnswers, transcript, List.filterMap_cons]
  simp only [h]
  rfl

theorem filterMap_routing?_call (op : Operation) (steps : List Step) :
    (Step.call op :: steps).filterMap Step.routing? =
      op.routing?.toList ++ steps.filterMap Step.routing? := by
  rw [List.filterMap_cons, Step.routing?]
  cases op.routing? <;> rfl

theorem routingAnswers_eq_serveAll (g : Gateway) (steps : List Step) :
    g.routingAnswers steps = g.idle.serveAll (steps.filterMap Step.routing?) := by
  induction steps generalizing g with
  | nil => rfl
  | cons s steps ih =>
    cases s with
    | logging change => exact ih (g.next (.logging change))
    | call op =>
      rw [filterMap_routing?_call]
      cases h : op.routing? with
      | none =>
        rw [g.routingAnswers_call_of_none h, ih]
        exact congrArg (Engine.serveAll · _) (g.idle_perform h)
      | some c =>
        obtain ⟨h1, h2⟩ := g.perform_serves h
        rw [g.routingAnswers_call_of_some h1, ih]
        show _ = _ :: (g.idle.serve c).2.serveAll _
        rw [← h2]
        rfl

theorem idle_after (g : Gateway) (steps : List Step) :
    (g.after steps).idle = g.idle.served (steps.filterMap Step.routing?) := by
  induction steps generalizing g with
  | nil => rfl
  | cons s steps ih =>
    refine (ih (g.next s)).trans ?_
    cases s with
    | logging change => rfl
    | call op =>
      rw [filterMap_routing?_call]
      cases h : op.routing? with
      | none => exact congrArg (Engine.served · _) (g.idle_perform h)
      | some c => exact congrArg (Engine.served · _) (g.perform_serves h).2

end Gateway
end SocksGateway
