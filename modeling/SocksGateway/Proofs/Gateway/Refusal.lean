import SocksGateway.Proofs.Engine.Proxies
import SocksGateway.Proofs.Gateway.History
import SocksGateway.Proofs.Policy.Revision

/-!
Requests that are refused. A refusal leaves a gateway as it was, so a history goes as it would have
gone without the requests that were refused in it. A proxy that fails to start is no refusal: it
stays registered.
-/
namespace SocksGateway

def GatewayError.isRefusal : GatewayError → Bool
  | invalidEndpoint _ => true
  | invalidRange _ => true
  | unknownProxy _ => true
  | rangeNotFound _ _ => true
  | startFailed _ _ => false
  | alreadyRunning => true
  | invalidConfig _ => false
  | file _ => true

namespace RuleChange

theorem isRefusal_of_byRange {range : String} {f : Network → Except GatewayError Rule}
    {e : GatewayError} (hf : ∀ n, f n = .error e → e.isRefusal = true)
    (h : byRange range f = .error e) :
    e.isRefusal = true := by
  unfold byRange at h
  split at h
  next => cases h; rfl
  next n _ => exact hf n h

theorem isRefusal_of_without {s : NetworkSet} {n : Network} {p : String} {f : NetworkSet → Rule}
    {e : GatewayError} (h : without s n p f = .error e) : e.isRefusal = true := by
  unfold without at h
  split at h
  · cases h
  · cases h; rfl

theorem isRefusal_of_revise {known : Handle → Bool} {c : RuleChange} {r : Rule} {e : GatewayError}
    (h : c.revise known r = .error e) : e.isRefusal = true := by
  cases c with
  | associate p k =>
    rw [revise] at h
    split at h
    · cases h
    · cases h; rfl
  | exclude p => cases h
  | allow p range => exact isRefusal_of_byRange (fun n hn => by cases hn) h
  | dropAllowed p range => exact isRefusal_of_byRange (fun n hn => isRefusal_of_without hn) h
  | deny p range => exact isRefusal_of_byRange (fun n hn => by cases hn) h
  | dropDenied p range => exact isRefusal_of_byRange (fun n hn => isRefusal_of_without hn) h

end RuleChange

/-- A step of a history with all that there is to see of it: the answer, if the step is a call, and
the gateway before and after. -/
structure Moment where
  before : Gateway
  step : Step
  answer : Option (Except GatewayError Answer)
  after : Gateway

namespace Moment

def isRefused (m : Moment) : Bool :=
  match m.answer with
  | some (.error e) => e.isRefusal
  | _ => false

/-- A proxy was to be added and started, and `e` says that it did not start: it is registered with
its fields as given, stopped, under a new handle, and nothing but the relay's calls and the log is
different besides. -/
def LeavesUnstarted (m : Moment) (e : GatewayError) : Prop :=
  ∃ endpoint address protocols credentials h reason,
    m.step = .call (.addProxy endpoint protocols credentials true) ∧ e = .startFailed h reason ∧
    Endpoint.ofProxyText? endpoint = some address ∧ m.before.registry.get? h = none ∧
    m.after.registry.proxies =
      m.before.registry.proxies ++ [⟨h, address, credentials, protocols, .stopped, true⟩] ∧
    ∃ registry calls log, m.after = { m.before with registry, calls, log }

end Moment

namespace Gateway

def answer? (g : Gateway) : Step → Option (Except GatewayError Answer)
  | .call op => some (g.perform op).1
  | .logging _ => none

def moment (g : Gateway) (s : Step) : Moment := ⟨g, s, g.answer? s, g.next s⟩

/-- Every step of a history as it went. -/
def moments (g : Gateway) : List Step → List Moment
  | [] => []
  | s :: steps => g.moment s :: (g.next s).moments steps

/-- What was not refused in a history. -/
def lasting (g : Gateway) (steps : List Step) : List Moment :=
  (g.moments steps).filter (!·.isRefused)

/-- How a request can fail, and what it leaves behind. -/
inductive Fails (g : Gateway) : Operation → GatewayError → Gateway → Prop
  | refused (op : Operation) {e : GatewayError} (h : e.isRefusal = true) : g.Fails op e g
  | unstarted {endpoint : String} {address : Endpoint} (protocols : ProtocolMask)
      (credentials : Option Credentials) (reason : String)
        (calls : Array RelayCall) (log : Pipeline)
      (h : Endpoint.ofProxyText? endpoint = some address) :
    g.Fails (.addProxy endpoint protocols credentials true)
      (.startFailed g.registry.nextHandle reason)
      { g with registry := g.registry.insert address credentials protocols true, calls, log }

theorem addProxy_fails {g : Gateway} {endpoint : String} {protocols : ProtocolMask}
    {credentials : Option Credentials} {start : Bool} {e : GatewayError}
    (h : (g.perform (.addProxy endpoint protocols credentials start)).1 = .error e) :
    g.Fails (.addProxy endpoint protocols credentials start) e
      (g.perform (.addProxy endpoint protocols credentials start)).2 := by
  rw [perform] at h ⊢
  cases ha : Endpoint.ofProxyText? endpoint with
  | none =>
    rw [g.toEngine.addProxy_of_none protocols credentials ha] at h ⊢
    cases h
    exact .refused _ rfl
  | some address =>
    cases start with
    | false =>
      obtain ⟨log, hp⟩ := g.toEngine.addProxy_unstarted protocols credentials ha
      rw [hp] at h
      cases h
    | true =>
      obtain ⟨log, p, hp, hs | ⟨failure, hs⟩⟩ :=
        g.toEngine.addProxy_started protocols credentials ha
      · rw [hs] at h
        cases h
      · rw [hs, hp] at h ⊢
        cases h
        exact .unstarted protocols credentials failure.reason _ _ ha

/-- The only request that fails and yet does something is one for a proxy that cannot be started. -/
theorem perform_fails {g : Gateway} {op : Operation} {e : GatewayError}
    (h : (g.perform op).1 = .error e) : g.Fails op e (g.perform op).2 := by
  cases op with
  | start =>
    rw [perform, start] at h ⊢
    split at h
    next hs =>
      rw [if_pos hs]
      cases h
      exact .refused _ rfl
    next => cases h
  | addProxy endpoint protocols credentials start => exact addProxy_fails h
  | change c =>
    rw [perform] at h ⊢
    cases hr : g.toEngine.revised c with
    | ok r =>
      obtain ⟨text, hc⟩ := Engine.change_of_revised_ok hr
      rw [hc] at h
      cases h
    | error error =>
      rw [Engine.change_of_revised_error hr] at h ⊢
      cases h
      exact .refused _ (RuleChange.isRefusal_of_revise hr)
  | setLogMirror path =>
    simp only [perform, mirrorTo] at h ⊢
    cases hm : g.log.mirrorTo path with
    | ok log =>
      rw [hm] at h
      cases h
    | error error =>
      simp only [hm] at h ⊢
      cases h
      exact .refused _ rfl
  | _ => cases h

theorem next_of_refused {g : Gateway} {s : Step} (h : (g.moment s).isRefused = true) :
    g.next s = g := by
  cases s with
  | logging change => cases h
  | call op =>
    simp only [moment, answer?, Moment.isRefused] at h
    cases ha : (g.perform op).1 with
    | ok answer => rw [ha] at h; cases h
    | error e =>
      rw [ha] at h
      have hf := perform_fails ha
      generalize hg : (g.perform op).2 = g' at hf
      cases hf with
      | refused op he => exact hg
      | unstarted => cases h

theorem lasting_cons_of_refused {g : Gateway} {s : Step} (h : (g.moment s).isRefused = true)
    (steps : List Step) : g.lasting (s :: steps) = g.lasting steps := by
  rw [lasting, moments, List.filter_cons, next_of_refused h, h]
  rfl

theorem lasting_cons_of_not_refused {g : Gateway} {s : Step} (h : (g.moment s).isRefused = false)
    (steps : List Step) : g.lasting (s :: steps) = g.moment s :: (g.next s).lasting steps := by
  rw [lasting, moments, List.filter_cons, h]
  rfl

/-- A history goes as it went when the calls that were refused in it are left out. -/
theorem moments_lasting (g : Gateway) (steps : List Step) :
    g.moments ((g.lasting steps).map (·.step)) = g.lasting steps ∧
      g.after ((g.lasting steps).map (·.step)) = g.after steps := by
  induction steps generalizing g with
  | nil => exact ⟨rfl, rfl⟩
  | cons s steps ih =>
    cases h : (g.moment s).isRefused with
    | true =>
      rw [lasting_cons_of_refused h]
      obtain ⟨hm, ha⟩ := ih g
      refine ⟨hm, ha.trans ?_⟩
      show g.after steps = (g.next s).after steps
      rw [next_of_refused h]
    | false =>
      rw [lasting_cons_of_not_refused h]
      obtain ⟨hm, ha⟩ := ih (g.next s)
      exact ⟨congrArg (g.moment s :: ·) hm, ha⟩

theorem eq_moment_of_mem {g : Gateway} {steps : List Step} {m : Moment}
    (h : m ∈ g.moments steps) :
    m = m.before.moment m.step := by
  induction steps generalizing g with
  | nil => cases h
  | cons s steps ih =>
    cases h with
    | head => rfl
    | tail _ h => exact ih h

theorem leavesUnstarted_moment {g : Gateway} {s : Step} {e : GatewayError}
    (hr : (g.moment s).isRefused = false) (he : (g.moment s).answer = some (.error e)) :
    (g.moment s).LeavesUnstarted e := by
  cases s with
  | logging change => cases he
  | call op =>
    have ha : (g.perform op).1 = .error e := Option.some.inj he
    have hf := perform_fails ha
    simp only [moment, answer?, ha, Moment.isRefused] at hr
    simp only [moment, next]
    generalize (g.perform op).2 = g' at hf
    cases hf with
    | refused op he => rw [he] at hr; cases hr
    | unstarted protocols credentials reason calls log h =>
      exact ⟨_, _, protocols, credentials, _, reason, rfl, rfl, h,
        Registry.get?_nextHandle _, rfl,
        _, calls, log, rfl⟩

/-- Requests that are refused leave no trace: without them every other step of a history meets the
same gateway, has the same answer and leaves the same gateway behind. Of the requests that are left
only those can fail that add a proxy which cannot be started. -/
theorem refused_without_trace (g : Gateway) (steps : List Step) :
    g.moments ((g.lasting steps).map (·.step)) = g.lasting steps ∧
      g.after ((g.lasting steps).map (·.step)) = g.after steps ∧
      ∀ m ∈ g.lasting steps, ∀ e, m.answer = some (.error e) → m.LeavesUnstarted e := by
  obtain ⟨hmoments, hafter⟩ := g.moments_lasting steps
  refine ⟨hmoments, hafter, fun m hm e he => ?_⟩
  obtain ⟨hm, hr⟩ := List.mem_filter.1 hm
  rw [eq_moment_of_mem hm] at hr he ⊢
  exact leavesUnstarted_moment (by simpa using hr) he

theorem refused_without_trace_of_unstarted :
    let g := create {} ⟨fun _ _ => some ⟨["no route"]⟩⟩ {}
    let add (endpoint : String) : Step := .call (.addProxy endpoint .both none true)
    g.after [add "127.0.0.1:1080"] = g.after [add "nowhere", add "127.0.0.1:1080"] ∧
      (g.moment (add "127.0.0.1:1080")).LeavesUnstarted (.startFailed ⟨1⟩ "no route") := by
  intro g add
  obtain ⟨-, hafter, hfail⟩ := g.refused_without_trace [add "nowhere", add "127.0.0.1:1080"]
  have hnowhere : (g.moment (add "nowhere")).isRefused = true := by decide +kernel
  have hproxy : (g.moment (add "127.0.0.1:1080")).isRefused = false := by decide +kernel
  have hlasting : g.lasting [add "nowhere", add "127.0.0.1:1080"] =
      [g.moment (add "127.0.0.1:1080")] := by
    rw [lasting_cons_of_refused hnowhere, lasting_cons_of_not_refused hproxy]
    rfl
  rw [hlasting] at hafter hfail
  exact ⟨hafter, hfail _ List.mem_cons_self _ (by decide +kernel)⟩

end Gateway
end SocksGateway
