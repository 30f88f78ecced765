import SocksGateway.Proofs.Engine.Heedless

namespace SocksGateway.Engine

def muted (e : Engine) : Engine := { e with log := {} }

theorem eq_of_muted {α : Type} {f : Engine → α} (hf : ∀ e, f e.muted = f e) {e e' : Engine}
    (h : e.muted = e'.muted) :
    f e = f e' := by
  rw [← hf e, h, hf]

/-- Work that an engine does the same way whatever its log is. -/
def Deaf {α : Type} (f : Engine → α × Engine) : Prop :=
  ∀ e, (f e.muted).1 = (f e).1 ∧ (f e.muted).2.muted = (f e).2.muted

theorem Deaf.congr {α : Type} {f : Engine → α × Engine} (hf : Deaf f) {e e' : Engine}
    (h : e.muted = e'.muted) :
    (f e).1 = (f e').1 ∧ (f e).2.muted = (f e').2.muted := by
  obtain ⟨hresult, hengine⟩ := hf e
  rw [h] at hresult hengine
  exact ⟨hresult.symm.trans (hf e').1, hengine.symm.trans (hf e').2⟩

theorem Heedless.deaf {α : Type} {f : Engine → α × Engine} (hf : Heedless f) : Deaf f := hf id

theorem deaf_register (endpoint : String) (protocols : ProtocolMask)
    (credentials : Option Credentials) (autostart : Bool) :
    Deaf (·.register endpoint protocols credentials autostart) :=
  (heedless_register endpoint protocols credentials autostart).deaf

theorem deaf_change (c : RuleChange) : Deaf (·.change c) := by
  intro e
  have hrevised : e.muted.revised c = e.revised c := rfl
  cases hr : e.revised c with
  | ok r =>
    obtain ⟨text, hc⟩ := change_of_revised_ok hr
    obtain ⟨text', hc'⟩ := change_of_revised_ok (hrevised.trans hr)
    dsimp only
    rw [hc, hc']
    exact ⟨rfl, rfl⟩
  | error error =>
    dsimp only
    rw [change_of_revised_error hr, change_of_revised_error (hrevised.trans hr)]
    exact ⟨rfl, rfl⟩

theorem deaf_decide (process : String) (destination : Endpoint) (protocol : Protocol) :
    Deaf (·.decide process destination protocol) := fun _ => ⟨rfl, rfl⟩

end SocksGateway.Engine
