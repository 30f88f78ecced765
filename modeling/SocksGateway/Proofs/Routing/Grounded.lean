import SocksGateway.Proofs.Routing.Reference

/-!
Rules name registered proxies only. So a proxy that is added later is nobody's, and decisions change
with the rules and the local filter alone.
-/
namespace SocksGateway

theorem RuleChange.proxy_revise {known : Handle → Bool} {c : RuleChange} {r s : Rule}
    {h : Handle} (hs : c.revise known r = .ok s) (hp : s.proxy = some h) :
    r.proxy = some h ∨ known h = true := by
  cases c with
  | associate p k =>
    rw [revise] at hs
    split at hs
    next hk =>
      cases hs
      cases hp
      exact .inr hk
    next => cases hs
  | exclude p => cases hs; exact .inl hp
  | allow p range =>
    obtain ⟨n, -, hs⟩ := byRange_eq_ok hs
    cases hs; exact .inl hp
  | dropAllowed p range =>
    obtain ⟨n, -, hs⟩ := byRange_eq_ok hs
    rw [without_eq_ok hs] at hp; exact .inl hp
  | deny p range =>
    obtain ⟨n, -, hs⟩ := byRange_eq_ok hs
    cases hs; exact .inl hp
  | dropDenied p range =>
    obtain ⟨n, -, hs⟩ := byRange_eq_ok hs
    rw [without_eq_ok hs] at hp; exact .inl hp

namespace Engine

/-- Rules name no proxies but registered ones. -/
def Grounded (e : Engine) : Prop :=
  ∀ process r h, e.policy.get? process = some r → r.proxy = some h →
    e.registry.contains h = true

theorem Grounded.idle {e : Engine} (hg : e.Grounded) : e.idle.Grounded := by
  intro process r h hr hp
  rw [Engine.idle, Registry.contains_idle]
  exact hg process r h hr hp

theorem Grounded.register {e : Engine} (hg : e.Grounded) (endpoint : String)
    (protocols : ProtocolMask) (credentials : Option Credentials) (autostart : Bool) :
    (e.register endpoint protocols credentials autostart).2.Grounded := by
  cases ha : Endpoint.ofProxyText? endpoint with
  | none =>
    rw [e.register_of_none protocols credentials ha]
    exact hg
  | some address =>
    obtain ⟨log, hr⟩ := e.register_of_some protocols credentials ha autostart
    rw [hr]
    intro process r h hget hp
    have hc := hg process r h hget hp
    rw [Registry.contains_iff] at hc ⊢
    rw [Registry.size_insert]
    omega

theorem Grounded.change {e : Engine} (hg : e.Grounded) (c : RuleChange) :
    (e.change c).2.Grounded := by
  cases hr : e.revised c with
  | error error =>
    rw [change_of_revised_error hr]
    exact hg
  | ok s =>
    obtain ⟨text, hc⟩ := change_of_revised_ok hr
    rw [hc]
    intro process r h hget hp
    have hput := e.policy.get?_put s process
    rw [show (e.policy.put s).get? process = some r from hget] at hput
    split at hput
    next =>
      cases hput
      rcases RuleChange.proxy_revise hr hp with hold | hknown
      · unfold PolicyTable.ruleFor at hold
        cases hf : e.policy.get? c.process with
        | none => rw [hf] at hold; cases hold
        | some old => rw [hf] at hold; exact hg c.process old h hf hold
      · exact hknown
    next => exact hg process r h hput.symm hp

theorem Grounded.serve {e : Engine} (hg : e.Grounded) (c : RoutingCall) :
    (e.serve c).2.Grounded := by
  cases c with
  | addProxy endpoint protocols credentials =>
    exact (hg.register endpoint protocols credentials false).idle
  | change c => exact (hg.change c).idle
  | setLanBypass enabled => exact hg
  | decide process destination protocol => exact hg

theorem Grounded.served {e : Engine} (hg : e.Grounded) (cs : List RoutingCall) :
    (e.served cs).Grounded := by
  induction cs generalizing e with
  | nil => exact hg
  | cons c cs ih => exact ih (hg.serve c)

theorem Grounded.evaluate_register {e : Engine} (hg : e.Grounded) (endpoint : String)
    (protocols : ProtocolMask) (credentials : Option Credentials) (autostart : Bool)
    (process : String) (a : Address) (protocol : Protocol) :
    (e.register endpoint protocols credentials autostart).2.evaluate process a protocol =
      e.evaluate process a protocol := by
  cases ha : Endpoint.ofProxyText? endpoint with
  | none => rw [e.register_of_none protocols credentials ha]
  | some address =>
    obtain ⟨log, hr⟩ := e.register_of_some protocols credentials ha autostart
    rw [hr]
    simp only [evaluate]
    split
    · rfl
    cases hget : e.policy.get? process with
    | none => rfl
    | some r =>
      simp only [Rule.decide]
      split
      · cases hp : r.proxy with
        | none => rfl
        | some h =>
          have hne : h ≠ e.registry.nextHandle := by
            intro he
            have hc := hg process r h hget hp
            rw [he, Registry.contains, Registry.get?_nextHandle] at hc
            cases hc
          simp only [Registry.offer, Registry.get?_insert, if_neg hne]
      · rfl

end Engine

/-- Decisions are the same after calls that neither change a rule nor the local filter. -/
def RoutingCall.Neutral : RoutingCall → Prop
  | addProxy _ _ _ => True
  | decide _ _ _ => True
  | change _ => False
  | setLanBypass _ => False

theorem Engine.Grounded.evaluate_served {e : Engine} (hg : e.Grounded) {cs : List RoutingCall}
    (hcs : ∀ c ∈ cs, c.Neutral) (process : String) (a : Address) (protocol : Protocol) :
    (e.served cs).evaluate process a protocol = e.evaluate process a protocol := by
  induction cs generalizing e with
  | nil => rfl
  | cons c cs ih =>
    obtain ⟨hc, hcs⟩ := List.forall_mem_cons.1 hcs
    refine (ih (hg.serve c) hcs).trans ?_
    cases c with
    | addProxy endpoint protocols credentials =>
      exact (Engine.evaluate_idle _ process a protocol).trans
        (hg.evaluate_register endpoint protocols credentials false process a protocol)
    | decide p d t => rfl
    | change c => cases hc
    | setLanBypass enabled => cases hc

theorem neutral_of_mem_routing {steps : List Step} (hc : ∀ c, .call (.change c) ∉ steps)
    (hl : ∀ enabled, .call (.setLanBypass enabled) ∉ steps) :
    ∀ c ∈ steps.filterMap Step.routing?, c.Neutral := by
  intro c hmem
  obtain ⟨op, hop, hr⟩ := exists_call_of_mem_routing hmem
  cases op with
  | addProxy endpoint protocols credentials start => cases hr; exact trivial
  | decide process destination protocol => cases hr; exact trivial
  | change c' => exact absurd hop (hc c')
  | setLanBypass enabled => exact absurd hop (hl enabled)
  | _ => cases hr
end SocksGateway
