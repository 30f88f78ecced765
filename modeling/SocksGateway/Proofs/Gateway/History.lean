import SocksGateway.Gateway.Configured
import SocksGateway.Gateway.Operation

/-!
Histories of gateways: how a gateway comes about, and what happens to it afterwards, call by call.
Between two calls its log and its worker may become anything: the worker takes its turns, time
passes, mirrors fail.
-/
namespace SocksGateway

theorem bind_eq_ok {ε α β : Type} {x : Except ε α} {f : α → Except ε β} {b : β}
    (h : x >>= f = .ok b) : ∃ a, x = .ok a ∧ f a = .ok b := by
  cases x with
  | error error => cases h
  | ok a => exact ⟨a, rfl, h⟩

theorem map_bind {ε α α' β β' : Type} {p : α → α'} {q : β → β'} {x : Except ε α}
    {f : α → Except ε β} {k : α' → Except ε β'}
    (h : ∀ a, x = .ok a → (f a).map q = k (p a)) :
    (x >>= f).map q = x.map p >>= k := by
  cases x with
  | error error => rfl
  | ok a => exact h a rfl

inductive Origin
  | options (o : GatewayOptions)
  | config (c : Config)

def Origin.build (relay : Relay) (files : FileTree) : Origin → Except GatewayError Gateway
  | options o => .ok (Gateway.create o relay files)
  | config c => Gateway.ofConfig c relay files

inductive Step
  | call (op : Operation)
  | logging (change : Pipeline → Option DrainWorker → Pipeline × Option DrainWorker)

namespace Engine

theorem applyChange_eq_ok {e e' : Engine} {c : RuleChange} (h : e.applyChange c = .ok e') :
    e' = (e.change c).2 := by
  unfold applyChange unlessFailed at h
  generalize e.change c = result at h
  obtain ⟨answer, e''⟩ := result
  cases answer with
  | ok u => exact (Except.ok.inj h).symm
  | error error => cases h

theorem applyProxy_eq_ok {e e' : Engine} {s : ProxySettings} (h : e.applyProxy s = .ok e') :
    ∃ k m, e.register s.endpoint s.protocols s.credentials s.start = (.ok k, m) ∧
      (s.processes.map (RuleChange.associate · k)).foldlM applyChange m = .ok e' := by
  unfold applyProxy unlessFailed at h
  generalize e.register s.endpoint s.protocols s.credentials s.start = result at h
  obtain ⟨answer, m⟩ := result
  cases answer with
  | ok k => exact ⟨k, m, rfl, h⟩
  | error error => cases h

theorem foldl_diagnose {α : Type} (e : Engine) (severity : Severity) (text : α → String)
    (as : List α) :
    ∃ log, as.foldl (fun e a => e.diagnose severity (text a)) e = { e with log } := by
  induction as generalizing e with
  | nil => exact ⟨e.log, rfl⟩
  | cons a as ih =>
    obtain ⟨log, h⟩ := ih (e.diagnose severity (text a))
    exact ⟨log, h⟩

theorem foldlM_keeps {α : Type} {P : Engine → Prop}
    {f : Engine → α → Except GatewayError Engine}
    (hf : ∀ e a e', P e → f e a = .ok e' → P e') {as : List α} {e e' : Engine} (he : P e)
    (h : as.foldlM f e = .ok e') : P e' := by
  induction as generalizing e with
  | nil => cases h; exact he
  | cons a as ih =>
    obtain ⟨m, hm, h⟩ := bind_eq_ok h
    exact ih (hf e a m he hm) h

theorem applyConfig_keeps {P : Engine → Prop}
    (hr : ∀ (e : Engine) endpoint protocols credentials autostart, P e →
      P (e.register endpoint protocols credentials autostart).2)
    (hc : ∀ (e : Engine) c, P e → P (e.change c).2) {c : Config} {e e' : Engine} (he : P e)
    (h : e.applyConfig c = .ok e') : P e' := by
  have hchange : ∀ (e : Engine) c e', P e → e.applyChange c = .ok e' → P e' := by
    intro e c e' he h
    rw [applyChange_eq_ok h]
    exact hc e c he
  have hproxy : ∀ (e : Engine) s e', P e → e.applyProxy s = .ok e' → P e' := by
    intro e s e' he h
    have hm := hr e s.endpoint s.protocols s.credentials s.start he
    obtain ⟨k, m, hreg, h⟩ := applyProxy_eq_ok h
    rw [hreg] at hm
    exact foldlM_keeps hchange hm h
  obtain ⟨e₁, h₁, h⟩ := bind_eq_ok h
  obtain ⟨e₂, h₂, h⟩ := bind_eq_ok h
  have he₁ : P e₁ := foldlM_keeps hproxy he h₁
  have he₂ : P e₂ := foldlM_keeps hchange he₁ h₂
  exact foldlM_keeps (fun e s e' he h => foldlM_keeps hchange he h) he₂ h

end Engine

namespace Gateway

def next (g : Gateway) : Step → Gateway
  | .call op => (g.perform op).2
  | .logging change =>
    { g with log := (change g.log g.worker).1, worker := (change g.log g.worker).2 }

def after (g : Gateway) (steps : List Step) : Gateway := steps.foldl next g

def transcript (g : Gateway) : List Step → List (Operation × Except GatewayError Answer)
  | [] => []
  | .call op :: steps => (op, (g.perform op).1) :: (g.next (.call op)).transcript steps
  | .logging change :: steps => (g.next (.logging change)).transcript steps

theorem after_append (g : Gateway) (as bs : List Step) :
    g.after (as ++ bs) = (g.after as).after bs :=
  List.foldl_append

@[simp] theorem after_concat (g : Gateway) (steps : List Step) (s : Step) :
    g.after (steps ++ [s]) = (g.after steps).next s := by
  rw [after_append]
  rfl

theorem run_eq_history (g : Gateway) (ops : List Operation) :
    (g.run ops).2 = g.after (ops.map .call) ∧
      ops.zip (g.run ops).1 = g.transcript (ops.map .call) := by
  induction ops generalizing g with
  | nil => exact ⟨rfl, rfl⟩
  | cons op ops ih =>
    obtain ⟨h1, h2⟩ := ih (g.next (.call op))
    exact ⟨h1, congrArg _ h2⟩

/-- A start tries every proxy that waits for it; its remarks go to the log and nowhere else. -/
theorem bringUp_eq (e : Engine) : ∃ log log',
    (bringUp e).2 =
      { (({ e with log } : Engine).startEach e.registry.pending).2 with log := log' } := by
  obtain ⟨log', h⟩ :=
    Engine.foldl_diagnose ((e.diagnose .info (startText e)).startPending).2 .warn
    (fun f : GatewayError => "Gateway started without proxy: " ++ f.message)
    ((e.diagnose .info (startText e)).startPending).1
  unfold bringUp
  simp only [h]
  exact ⟨_, _, rfl⟩

theorem mirrored_eq_ok {g m : Gateway} {path : Option String} (h : g.mirrored path = .ok m) :
    ∃ log, m = g.withLog log := by
  unfold mirrored at h
  split at h
  next path =>
    unfold mirrorTo at h
    split at h
    next log _ => exact ⟨log, (Except.ok.inj h).symm⟩
    next => cases h
  next => exact ⟨g.log, (Except.ok.inj h).symm⟩

theorem ofConfig_eq_ok {c : Config} {relay : Relay} {files : FileTree} {g : Gateway}
    (h : ofConfig c relay files = .ok g) :
    c.validate = .ok () ∧ ∃ m e,
      (create c.options relay files).mirrored c.logging.mirror = .ok m ∧
      m.toEngine.applyConfig c = .ok e ∧ g = { m with toEngine := e } := by
  unfold ofConfig at h
  split at h
  next => cases h
  next hv =>
    obtain ⟨m, hm, h⟩ := bind_eq_ok h
    obtain ⟨e, he, h⟩ := bind_eq_ok h
    exact ⟨hv, m, e, hm, he, (Except.ok.inj h).symm⟩

end Gateway
end SocksGateway
