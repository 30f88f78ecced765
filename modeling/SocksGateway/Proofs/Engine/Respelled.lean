import SocksGateway.Proofs.Engine.Heedless
import SocksGateway.Proofs.Gateway.LogSteps
import SocksGateway.Proofs.Log.Wordless
import SocksGateway.Proofs.Policy.NameVariants

namespace SocksGateway.Engine

open ProcessName (Variant)

def plain (e : Engine) : Engine := e.viewed PolicyTable.plain

section
variable (e : Engine) (c : RuleChange)

theorem revised_plain :
    e.plain.revised c.plain = ((e.revised c).map Rule.plain).mapError GatewayError.plain := by
  show c.plain.revise e.registry.contains (e.policy.plain.ruleFor c.plain.process) = _
  rw [c.process_plain, e.policy.ruleFor_plain, c.revise_plain, revised]

theorem change_plain : (e.plain.change c.plain).1 = (e.change c).1.mapError GatewayError.plain ∧
    (e.plain.change c.plain).2.viewed id = (e.change c).2.plain := by
  have hrevised := e.revised_plain c
  cases hr : e.revised c with
  | ok r =>
    rw [hr] at hrevised
    obtain ⟨text, hc⟩ := change_of_revised_ok hr
    obtain ⟨text', hc'⟩ := change_of_revised_ok hrevised
    rw [hc, hc']
    exact ⟨rfl, congrArg (fun policy => { e with log := {}, policy })
      (e.policy.put_plain r).symm⟩
  | error error =>
    rw [hr] at hrevised
    rw [change_of_revised_error hr, change_of_revised_error hrevised]
    exact ⟨rfl, rfl⟩

theorem wordless_changeSteps : (e.changeSteps c).map LogStep.wordless =
    match e.revised c with
    | .ok _ => [.message .info ""]
    | .error _ => [] := by
  unfold changeSteps
  cases hr : e.revised c with
  | ok r =>
    obtain ⟨text, hannounced, -⟩ := change_announced hr
    rw [hannounced]
    rfl
  | error error => rfl

theorem evaluate_plain (process : String) (a : Address) (protocol : Protocol) :
    e.plain.evaluate (ProcessName.plain process) a protocol = e.evaluate process a protocol := by
  have hget : e.plain.policy.get? (ProcessName.plain process) =
      (e.policy.get? process).map Rule.plain :=
    e.policy.get?_plain process
  unfold evaluate
  rw [hget]
  cases e.policy.get? process with
  | none => rfl
  | some r => rfl

end

variable {e e' : Engine} (h : e.plain = e'.plain)
include h

theorem change_respelled {c c' : RuleChange} (hc : c.plain = c'.plain) :
    (e.change c).1.mapError GatewayError.plain = (e'.change c').1.mapError GatewayError.plain ∧
      (e.change c).2.plain = (e'.change c').2.plain := by
  obtain ⟨hanswer, hengine⟩ := e.change_plain c
  obtain ⟨hanswer', hengine'⟩ := e'.change_plain c'
  rw [h, hc] at hanswer hengine
  exact ⟨hanswer.symm.trans hanswer', hengine.symm.trans hengine'⟩

theorem changeSteps_respelled {c c' : RuleChange} (hc : c.plain = c'.plain) :
    (e.changeSteps c).map LogStep.wordless = (e'.changeSteps c').map LogStep.wordless := by
  have hrevised := e.revised_plain c
  rw [h, hc, e'.revised_plain c'] at hrevised
  rw [wordless_changeSteps, wordless_changeSteps]
  generalize e.revised c = revised at hrevised ⊢
  generalize e'.revised c' = revised' at hrevised ⊢
  cases revised with
  | ok r =>
    cases revised' with
    | ok r' => rfl
    | error error => cases hrevised
  | error error =>
    cases revised' with
    | ok r' => cases hrevised
    | error error' => rfl

theorem evaluate_respelled {p q : String} (hpq : Variant p q) (a : Address) (protocol : Protocol) :
    e.evaluate p a protocol = e'.evaluate q a protocol := by
  rw [← evaluate_plain, h, hpq.plain_eq, evaluate_plain]

theorem get?_respelled {p q : String} (hpq : Variant p q) :
    (e.policy.get? p).map Rule.plain = (e'.policy.get? q).map Rule.plain := by
  have hpolicy : e.policy.plain = e'.policy.plain := congrArg (·.policy) h
  rw [← PolicyTable.get?_plain, hpolicy, hpq.plain_eq, PolicyTable.get?_plain]

end SocksGateway.Engine
