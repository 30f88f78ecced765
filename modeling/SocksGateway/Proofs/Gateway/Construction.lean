import SocksGateway.Proofs.Routing.Configured

/-!
Building a gateway step by step. A step that fails leaves the gateway as it is by then, so that what
an attempt does shows even if nothing comes of it.
-/
namespace SocksGateway

inductive BuildStep
  | mirror (path : String)
  | register (proxy : ProxySettings)
  | change (change : RuleChange)

/-- A proxy is registered before its processes are assigned to it, under the handle that comes
next. -/
def ProxySettings.steps (s : ProxySettings) (h : Handle) : List BuildStep :=
  .register s :: s.processes.map fun p => .change (.associate p h)

namespace Config

def proxySteps (n : Nat) : List ProxySettings → List BuildStep
  | [] => []
  | s :: proxies => s.steps ⟨n + 1⟩ ++ proxySteps (n + 1) proxies

def steps (c : Config) : List BuildStep :=
  c.logging.mirror.toList.map .mirror ++ (proxySteps 0 c.proxies ++ c.changes.map .change)

end Config

namespace Engine

theorem foldlM_applyRule (rules : List RuleSettings) (e : Engine) :
    rules.foldlM applyRule e = (rules.flatMap RuleSettings.changes).foldlM applyChange e := by
  induction rules generalizing e with
  | nil => rfl
  | cons r rules ih =>
    rw [List.foldlM_cons, List.flatMap_cons, List.foldlM_append]
    exact congrArg (_ >>= ·) (funext ih)

theorem applyConfig_eq (e : Engine) (c : Config) :
    e.applyConfig c = c.proxies.foldlM applyProxy e >>= fun e =>
      c.changes.foldlM applyChange e := by
  refine congrArg (_ >>= ·) (funext fun e => ?_)
  rw [Config.changes, List.foldlM_append]
  exact congrArg (_ >>= ·) (funext fun e => foldlM_applyRule c.rules e)

end Engine

namespace Gateway

def within (g : Gateway) (e : Engine) : Gateway := { g with toEngine := e }

def take (g : Gateway) : BuildStep → Except GatewayError Unit × Gateway
  | .mirror path =>
    match g.mirrorTo path with
    | .ok g => (.ok (), g)
    | .error error => (.error error, g)
  | .register s =>
    let r := g.toEngine.register s.endpoint s.protocols s.credentials s.start
    (r.1.map fun _ => (), g.within r.2)
  | .change c => g.withEngine (g.toEngine.change c)

def takeAll (g : Gateway) : List BuildStep → Except GatewayError Unit × Gateway
  | [] => (.ok (), g)
  | s :: steps =>
    match g.take s with
    | (.ok (), g) => g.takeAll steps
    | failed => failed

/-- An attempt to build a gateway, with the gateway that it worked on, if it came to that. -/
def attempt (c : Config) (relay : Relay) (files : FileTree) :
    Except GatewayError Unit × Option Gateway :=
  match c.validate with
  | .error fault => (.error (.invalidConfig fault), none)
  | .ok () =>
    (((create c.options relay files).takeAll c.steps).1,
      ((create c.options relay files).takeAll c.steps).2)

def finished (r : Except GatewayError Unit × Gateway) : Except GatewayError Gateway :=
  r.1.map fun _ => r.2

theorem finished_cons (g : Gateway) (s : BuildStep) (steps : List BuildStep) :
    finished (g.takeAll (s :: steps)) = finished (g.take s) >>= fun g =>
      finished (g.takeAll steps) := by
  rw [takeAll]
  generalize g.take s = result
  obtain ⟨answer, g'⟩ := result
  cases answer <;> rfl

theorem finished_append (g : Gateway) (as bs : List BuildStep) :
    finished (g.takeAll (as ++ bs)) = finished (g.takeAll as) >>= fun g =>
      finished (g.takeAll bs) := by
  induction as generalizing g with
  | nil => rfl
  | cons s as ih =>
    rw [List.cons_append, finished_cons, finished_cons]
    generalize finished (g.take s) = result
    cases result with
    | ok g' => exact ih g'
    | error error => rfl

theorem finished_change (g : Gateway) (c : RuleChange) :
    finished (g.take (.change c)) = (g.toEngine.applyChange c).map g.within := by
  unfold Engine.applyChange Engine.unlessFailed
  show (g.toEngine.change c).1.map (fun _ => g.within (g.toEngine.change c).2) = _
  generalize g.toEngine.change c = result
  obtain ⟨answer, e⟩ := result
  cases answer <;> rfl

theorem finished_changes (g : Gateway) (cs : List RuleChange) :
    finished (g.takeAll (cs.map .change)) =
      (cs.foldlM Engine.applyChange g.toEngine).map g.within := by
  induction cs generalizing g with
  | nil => rfl
  | cons c cs ih =>
    rw [List.map_cons, finished_cons, finished_change, List.foldlM_cons]
    exact (map_bind fun e _ => (ih (g.within e)).symm).symm

theorem finished_proxy (g : Gateway) (s : ProxySettings) :
    finished (g.takeAll (s.steps g.registry.nextHandle)) =
      (g.toEngine.applyProxy s).map g.within := by
  rw [ProxySettings.steps, finished_cons]
  unfold Engine.applyProxy
  cases ha : Endpoint.ofProxyText? s.endpoint with
  | none =>
    simp only [take]
    rw [g.toEngine.register_of_none s.protocols s.credentials ha]
    rfl
  | some address =>
    obtain ⟨log, hr⟩ := g.toEngine.register_of_some s.protocols s.credentials ha s.start
    simp only [take]
    rw [hr]
    have hchanges := finished_changes
      (g.within { g.toEngine with
        registry := g.registry.insert address s.credentials s.protocols s.start
        log })
      (s.processes.map (RuleChange.associate · g.registry.nextHandle))
    rw [List.map_map] at hchanges
    exact hchanges

theorem finished_proxies (proxies : List ProxySettings) (g : Gateway) :
    finished (g.takeAll (Config.proxySteps g.registry.size proxies)) =
      (proxies.foldlM Engine.applyProxy g.toEngine).map g.within := by
  induction proxies generalizing g with
  | nil => rfl
  | cons s proxies ih =>
    rw [Config.proxySteps, finished_append, List.foldlM_cons]
    refine Eq.trans (congrArg (· >>= _) (g.finished_proxy s)) (map_bind fun e he => ?_).symm
    rw [← Engine.size_applyProxy he]
    exact (ih (g.within e)).symm

theorem finished_config {g : Gateway} (h : g.registry.size = 0) (c : Config) :
    finished (g.takeAll (Config.proxySteps 0 c.proxies ++ c.changes.map .change)) =
      (g.toEngine.applyConfig c).map g.within := by
  rw [finished_append, Engine.applyConfig_eq, ← h]
  refine Eq.trans (congrArg (· >>= _) (finished_proxies c.proxies g)) (map_bind fun e _ => ?_).symm
  exact (finished_changes (g.within e) c.changes).symm

theorem finished_mirror (g : Gateway) (path : Option String) :
    finished (g.takeAll (path.toList.map .mirror)) = g.mirrored path := by
  cases path with
  | none => rfl
  | some path =>
    show finished (g.takeAll [.mirror path]) = g.mirrorTo path
    rw [finished_cons, take]
    cases g.mirrorTo path <;> rfl

theorem finished_eq_ok_iff {r : Except GatewayError Unit × Gateway} {g : Gateway} :
    finished r = .ok g ↔ r = (.ok (), g) := by
  obtain ⟨answer, g'⟩ := r
  cases answer with
  | ok => simp [finished, Except.map]
  | error error => exact iff_of_false nofun nofun

theorem finished_eq_error_iff {r : Except GatewayError Unit × Gateway} {error : GatewayError} :
    finished r = .error error ↔ r.1 = .error error := by
  obtain ⟨answer, g'⟩ := r
  cases answer with
  | ok => exact iff_of_false nofun nofun
  | error error' => simp [finished, Except.map]

theorem registry_of_mirrored {g m : Gateway} {path : Option String} (h : g.mirrored path = .ok m) :
    m.registry = g.registry := by
  obtain ⟨log, rfl⟩ := mirrored_eq_ok h
  rfl

theorem ofConfig_eq_finished {c : Config} (h : c.validate = .ok ()) (relay : Relay)
    (files : FileTree) :
    ofConfig c relay files = finished ((create c.options relay files).takeAll c.steps) := by
  rw [Config.steps, finished_append, finished_mirror, ofConfig, h]
  dsimp only
  cases hm : (create c.options relay files).mirrored c.logging.mirror with
  | error error => rfl
  | ok m =>
    have hsize : m.registry.size = 0 := congrArg Registry.size (registry_of_mirrored hm)
    refine Eq.trans ?_ (finished_config hsize c).symm
    show (m.toEngine.applyConfig c >>= fun e => .ok (m.within e)) =
        (m.toEngine.applyConfig c).map m.within
    cases m.toEngine.applyConfig c <;> rfl

end Gateway

end SocksGateway
