import SocksGateway.Proofs.Routing.Reference

namespace SocksGateway

def ProxySettings.calls (s : ProxySettings) (h : Handle) : List RoutingCall :=
  .addProxy s.endpoint s.protocols s.credentials :: s.processes.map fun p =>
    .change (.associate p h)

def RuleSettings.changes (s : RuleSettings) : List RuleChange :=
  s.allowed.map (RuleChange.allow s.process) ++ s.denied.map (RuleChange.deny s.process)

namespace Config

def proxyCalls (n : Nat) : List ProxySettings → List RoutingCall
  | [] => []
  | s :: proxies => s.calls ⟨n + 1⟩ ++ proxyCalls (n + 1) proxies

def changes (c : Config) : List RuleChange :=
  c.excludes.map .exclude ++ c.rules.flatMap RuleSettings.changes

def calls (c : Config) : List RoutingCall := proxyCalls 0 c.proxies ++ c.changes.map .change

end Config

namespace Engine

/-- What an idle engine becomes by a call that has to succeed. -/
def commit (e : Engine) (c : RoutingCall) : Except GatewayError Engine :=
  (e.serve c).1.map fun _ => (e.serve c).2

theorem served_of_foldlM_commit {e e' : Engine} {cs : List RoutingCall}
    (h : cs.foldlM commit e = .ok e') : e' = e.served cs := by
  induction cs generalizing e with
  | nil => exact (Except.ok.inj h).symm
  | cons c cs ih =>
    obtain ⟨m, hm, h⟩ := bind_eq_ok h
    have hs : (e.serve c).2 = m := by
      unfold commit at hm
      cases ha : (e.serve c).1 with
      | ok answer => rw [ha] at hm; exact Except.ok.inj hm
      | error error => rw [ha] at hm; cases hm
    rw [ih h, ← hs]
    rfl

theorem map_idle_foldlM {α : Type} {f : Engine → α → Except GatewayError Engine}
    {k : α → List RoutingCall} (hf : ∀ e a, (f e a).map idle = (k a).foldlM commit e.idle)
    (as : List α) (e : Engine) :
    (as.foldlM f e).map idle = (as.flatMap k).foldlM commit e.idle := by
  induction as generalizing e with
  | nil => rfl
  | cons a as ih =>
    rw [List.foldlM_cons, List.flatMap_cons, List.foldlM_append, ← hf]
    exact map_bind fun m _ => ih m

theorem applyChange_idle (e : Engine) (c : RuleChange) :
    (e.applyChange c).map idle = e.idle.commit (.change c) := by
  obtain ⟨h1, h2⟩ := e.change_idle c
  rw [commit, serve, h1, h2]
  unfold applyChange unlessFailed
  generalize e.change c = result
  obtain ⟨answer, e'⟩ := result
  cases answer <;> rfl

theorem foldlM_applyChange_idle (cs : List RuleChange) (e : Engine) :
    (cs.foldlM applyChange e).map idle = (cs.map RoutingCall.change).foldlM commit e.idle := by
  induction cs generalizing e with
  | nil => rfl
  | cons c cs ih =>
    rw [List.foldlM_cons, List.map_cons, List.foldlM_cons, ← applyChange_idle]
    exact map_bind fun m _ => ih m

theorem size_applyProxy {e e' : Engine} {s : ProxySettings} (h : e.applyProxy s = .ok e') :
    e'.registry.size = e.registry.size + 1 := by
  obtain ⟨k, m, hreg, h⟩ := applyProxy_eq_ok h
  have hkeep : e'.registry = m.registry := by
    refine foldlM_keeps (P := fun x => x.registry = m.registry) (fun x c x' hx hc => ?_) rfl h
    rw [applyChange_eq_ok hc, registry_change, hx]
  cases ha : Endpoint.ofProxyText? s.endpoint with
  | none =>
    rw [e.register_of_none s.protocols s.credentials ha] at hreg
    cases hreg
  | some address =>
    obtain ⟨log, hr⟩ := e.register_of_some s.protocols s.credentials ha s.start
    rw [hr] at hreg
    cases hreg
    rw [hkeep, Registry.size_insert]

theorem applyProxy_idle (e : Engine) (s : ProxySettings) :
    (e.applyProxy s).map idle = (s.calls e.registry.nextHandle).foldlM commit e.idle := by
  obtain ⟨h1, h2⟩ := e.register_idle s.endpoint s.protocols s.credentials s.start
  rw [ProxySettings.calls, List.foldlM_cons, commit, serve, h1, h2]
  unfold applyProxy
  cases ha : Endpoint.ofProxyText? s.endpoint with
  | none =>
    rw [e.register_of_none s.protocols s.credentials ha]
    rfl
  | some address =>
    obtain ⟨log, hr⟩ := e.register_of_some s.protocols s.credentials ha s.start
    rw [hr]
    refine (foldlM_applyChange_idle _ _).trans ?_
    rw [List.map_map]
    rfl

theorem foldlM_applyProxy_idle (proxies : List ProxySettings) (e : Engine) :
    (proxies.foldlM applyProxy e).map idle =
      (Config.proxyCalls e.registry.size proxies).foldlM commit e.idle := by
  induction proxies generalizing e with
  | nil => rfl
  | cons s proxies ih =>
    rw [List.foldlM_cons, Config.proxyCalls, List.foldlM_append]
    show _ = (s.calls e.registry.nextHandle).foldlM commit e.idle >>= _
    rw [← applyProxy_idle]
    refine map_bind fun m hm => ?_
    rw [ih, size_applyProxy hm]

/-- Applying a configuration comes to its calls. -/
theorem applyConfig_idle {e : Engine} (c : Config) (h : e.registry.size = 0) :
    (e.applyConfig c).map idle = c.calls.foldlM commit e.idle := by
  have hr (e : Engine) : (c.rules.foldlM applyRule e).map idle =
      ((c.rules.flatMap RuleSettings.changes).map RoutingCall.change).foldlM commit e.idle := by
    rw [List.map_flatMap]
    exact map_idle_foldlM (fun e s => foldlM_applyChange_idle s.changes e) c.rules e
  rw [Config.calls, Config.changes, List.map_append, List.foldlM_append, ← h,
    ← foldlM_applyProxy_idle]
  refine map_bind fun m _ => ?_
  rw [List.foldlM_append, ← foldlM_applyChange_idle]
  exact map_bind fun m _ => hr m

end Engine
end SocksGateway
