import SocksGateway.Proofs.Engine.Proxies
import SocksGateway.Proofs.Gateway.Lifecycle

/-!
Engines without their logs, and with something else for their tables. What an engine does with its
proxies looks neither at its log nor at its rules: it is the same whatever they are, and it leaves
the rules as they are.
-/
namespace SocksGateway.Engine

/-- The engine without its log, and with what there is to be seen of its table. -/
def viewed (view : PolicyTable → PolicyTable) (e : Engine) : Engine :=
  { e with log := {}, policy := view e.policy }

theorem eq_of_viewed {α : Type} {view : PolicyTable → PolicyTable} {f : Engine → α}
    (hf : ∀ e, f (e.viewed view) = f e) {e e' : Engine} (h : e.viewed view = e'.viewed view) :
    f e = f e' := by
  rw [← hf e, h, hf]

/-- Work that an engine does the same way whatever its log and its table are. -/
def Heedless {α : Type} (f : Engine → α × Engine) : Prop :=
  ∀ (view : PolicyTable → PolicyTable) (e : Engine),
    (f (e.viewed view)).1 = (f e).1 ∧ (f (e.viewed view)).2.viewed id = (f e).2.viewed view

theorem Heedless.congr {α : Type} {f : Engine → α × Engine} (hf : Heedless f)
    {view view' : PolicyTable → PolicyTable} {e e' : Engine}
    (h : e.viewed view = e'.viewed view') :
    (f e).1 = (f e').1 ∧ (f e).2.viewed view = (f e').2.viewed view' := by
  obtain ⟨hresult, hengine⟩ := hf view e
  rw [h] at hresult hengine
  exact ⟨hresult.symm.trans (hf view' e').1, hengine.symm.trans (hf view' e').2⟩

theorem heedless_register (endpoint : String) (protocols : ProtocolMask)
    (credentials : Option Credentials) (autostart : Bool) :
    Heedless (·.register endpoint protocols credentials autostart) := by
  intro view e
  dsimp only [register]
  cases Endpoint.ofProxyText? endpoint with
  | none => exact ⟨rfl, rfl⟩
  | some address => exact ⟨rfl, rfl⟩

theorem heedless_startProxy (h : Handle) : Heedless (·.startProxy h) := by
  intro view e
  dsimp only
  cases hp : e.registry.get? h with
  | none =>
    rw [startProxy_of_unknown hp, startProxy_of_unknown (e := e.viewed view) hp]
    exact ⟨rfl, rfl⟩
  | some p =>
    cases hr : p.isRunning with
    | true =>
      rw [startProxy_of_running hp hr, startProxy_of_running (e := e.viewed view) hp hr]
      exact ⟨rfl, rfl⟩
    | false =>
      obtain rfl := Registry.handle_of_get? hp
      obtain ⟨log, -, he⟩ := startProxy_attempt hp hr
      obtain ⟨log', -, he'⟩ := startProxy_attempt (e := e.viewed view) hp hr
      rw [he, he']
      exact ⟨rfl, rfl⟩

theorem heedless_addProxy (endpoint : String) (protocols : ProtocolMask)
    (credentials : Option Credentials) (start : Bool) :
    Heedless (·.addProxy endpoint protocols credentials start) := by
  intro view e
  obtain ⟨hhandle, hengine⟩ := heedless_register endpoint protocols credentials start view e
  dsimp only [addProxy] at hhandle hengine ⊢
  generalize (e.viewed view).register endpoint protocols credentials start =
    other at hhandle hengine ⊢
  generalize e.register endpoint protocols credentials start = result at hhandle hengine ⊢
  obtain ⟨answer, m⟩ := result
  obtain ⟨answer', m'⟩ := other
  obtain rfl : answer' = answer := hhandle
  cases answer' with
  | error error => exact ⟨rfl, hengine⟩
  | ok h =>
    cases start with
    | false => exact ⟨rfl, hengine⟩
    | true =>
      obtain ⟨hanswer, hlast⟩ := (heedless_startProxy h).congr hengine
      dsimp only at hanswer hlast ⊢
      rw [if_pos rfl, if_pos rfl]
      generalize m'.startProxy h = started' at hanswer hlast ⊢
      generalize m.startProxy h = started at hanswer hlast ⊢
      obtain ⟨outcome, x⟩ := started
      obtain ⟨outcome', x'⟩ := started'
      obtain rfl : outcome' = outcome := hanswer
      cases outcome' with
      | error error => exact ⟨rfl, hlast⟩
      | ok u => exact ⟨rfl, hlast⟩

theorem heedless_bringUp : Heedless Gateway.bringUp := by
  intro view e
  obtain ⟨log, -, he⟩ := Gateway.bringUp_attempts e
  obtain ⟨log', -, he'⟩ := Gateway.bringUp_attempts (e.viewed view)
  rw [he, he']
  exact ⟨rfl, rfl⟩

theorem heedless_tearDown : Heedless fun e => ((), Gateway.tearDown e) := by
  intro view e
  obtain ⟨log, -, he⟩ := stopEach_eq e.registry.running e
  obtain ⟨log', -, he'⟩ := stopEach_eq e.registry.running (e.viewed view)
  refine ⟨rfl, ?_⟩
  show (e.registry.running.foldl stopProxy (e.viewed view)).viewed id =
    (e.registry.running.foldl stopProxy e).viewed view
  rw [he, he']
  rfl

end SocksGateway.Engine
