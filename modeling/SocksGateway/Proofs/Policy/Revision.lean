import SocksGateway.Engine.Rules
import SocksGateway.Proofs.Policy.Lookup

namespace SocksGateway

namespace RuleChange

def process : RuleChange → String
  | associate p _ => p
  | exclude p => p
  | allow p _ => p
  | dropAllowed p _ => p
  | deny p _ => p
  | dropDenied p _ => p

def byRange (range : String) (revise : Network → Except GatewayError Rule) :
    Except GatewayError Rule :=
  match Network.ofRangeText? range with
  | none => .error (.invalidRange range)
  | some n => revise n

def without (s : NetworkSet) (n : Network) (p : String) (revise : NetworkSet → Rule) :
    Except GatewayError Rule :=
  if s.has n then .ok (revise (s.erase n)) else .error (.rangeNotFound n.toText p)

/-- What a change makes of the rule of its process; `known` tells which proxies there are. -/
def revise (known : Handle → Bool) : RuleChange → Rule → Except GatewayError Rule
  | associate _ h, r => if known h then .ok { r with proxy := some h } else .error (.unknownProxy h)
  | exclude _, r => .ok { r with excluded := true }
  | allow _ range, r => byRange range fun n => .ok { r with allowed := r.allowed.insert n }
  | dropAllowed p range, r =>
    byRange range fun n => without r.allowed n p ({ r with allowed := · })
  | deny _ range, r => byRange range fun n => .ok { r with denied := r.denied.insert n }
  | dropDenied p range, r => byRange range fun n => without r.denied n p ({ r with denied := · })

theorem byRange_eq_ok {range : String} {f : Network → Except GatewayError Rule} {r : Rule}
    (h : byRange range f = .ok r) : ∃ n, Network.ofRangeText? range = some n ∧ f n = .ok r := by
  unfold byRange at h
  split at h
  next => cases h
  next n hn => exact ⟨n, hn, h⟩

theorem without_eq_ok {s : NetworkSet} {n : Network} {p : String} {f : NetworkSet → Rule}
    {r : Rule} (h : without s n p f = .ok r) : r = f (s.erase n) := by
  unfold without at h
  split at h
  · exact (Except.ok.inj h).symm
  · cases h

theorem byRange_of_text {range : String} {n : Network} (h : Network.ofRangeText? range = some n)
    (f : Network → Except GatewayError Rule) : byRange range f = f n := by
  unfold byRange
  simp only [h]

theorem without_of_has {s : NetworkSet} {n : Network} (h : s.has n = true) (p : String)
    (f : NetworkSet → Rule) : without s n p f = .ok (f (s.erase n)) := by
  rw [without, if_pos h]

theorem name_revise {known : Handle → Bool} {c : RuleChange} {r s : Rule}
    (h : c.revise known r = .ok s) : s.name = r.name := by
  cases c with
  | associate p k =>
    rw [revise] at h
    split at h
    · cases h; rfl
    · cases h
  | exclude p => cases h; rfl
  | allow p range =>
    obtain ⟨n, -, h⟩ := byRange_eq_ok h
    cases h; rfl
  | dropAllowed p range =>
    obtain ⟨n, -, h⟩ := byRange_eq_ok h
    rw [without_eq_ok h]
  | deny p range =>
    obtain ⟨n, -, h⟩ := byRange_eq_ok h
    cases h; rfl
  | dropDenied p range =>
    obtain ⟨n, -, h⟩ := byRange_eq_ok h
    rw [without_eq_ok h]

theorem key_revise {known : Handle → Bool} {c : RuleChange} {r s : Rule}
    (h : c.revise known r = .ok s) : s.key = r.key := by
  rw [Rule.key, name_revise h, Rule.key]

end RuleChange

inductive RangeSet
  | allowed
  | denied

namespace RangeSet

def of (r : Rule) : RangeSet → NetworkSet
  | allowed => r.allowed
  | denied => r.denied

def add (process range : String) : RangeSet → RuleChange
  | allowed => .allow process range
  | denied => .deny process range

def drop (process range : String) : RangeSet → RuleChange
  | allowed => .dropAllowed process range
  | denied => .dropDenied process range

end RangeSet

namespace Engine

/-- A request that comes to a rule puts it into the table; one that fails changes nothing. -/
inductive Revises (e : Engine) :
    Except GatewayError Rule → Except GatewayError Unit × Engine → Prop
  | ok (r : Rule) (text : String) : Revises e (.ok r) (.ok (), e.adopt (e.policy.put r) text)
  | error (error : GatewayError) : Revises e (.error error) (.error error, e)

theorem revises_withRange {e : Engine} {range : String} {f : Network → Except GatewayError Rule}
    {g : Network → Except GatewayError Unit × Engine} (h : ∀ n, e.Revises (f n) (g n)) :
    e.Revises (RuleChange.byRange range f) (e.withRange range g) := by
  unfold RuleChange.byRange withRange
  cases Network.ofRangeText? range with
  | none => exact .error _
  | some n => exact h n

theorem revises_adoptRemoval (e : Engine) (s : NetworkSet) (f : NetworkSet → Rule)
    (verb : String) (n : Network) (p : String) :
    e.Revises (RuleChange.without s n p f)
      (e.adoptRemoval (if s.has n then some (e.policy.put (f (s.erase n))) else none)
        verb n p) := by
  unfold RuleChange.without
  split
  · exact .ok _ _
  · exact .error _

def revised (e : Engine) (c : RuleChange) : Except GatewayError Rule :=
  c.revise e.registry.contains (e.policy.ruleFor c.process)

theorem change_revises (e : Engine) (c : RuleChange) : e.Revises (e.revised c) (e.change c) := by
  cases c with
  | associate p h =>
    rw [revised, RuleChange.revise, change, associate]
    split
    · exact .ok _ _
    · exact .error _
  | exclude p => exact .ok _ _
  | allow p range => exact revises_withRange fun n => .ok _ _
  | dropAllowed p range => exact revises_withRange fun n => e.revises_adoptRemoval _ _ _ n p
  | deny p range => exact revises_withRange fun n => .ok _ _
  | dropDenied p range => exact revises_withRange fun n => e.revises_adoptRemoval _ _ _ n p

theorem change_of_revised_ok {e : Engine} {c : RuleChange} {r : Rule} (h : e.revised c = .ok r) :
    ∃ text, e.change c = (.ok (), e.adopt (e.policy.put r) text) := by
  have hc := e.change_revises c
  rw [h] at hc
  generalize e.change c = result at hc
  cases hc with
  | ok r text => exact ⟨text, rfl⟩

theorem change_of_revised_error {e : Engine} {c : RuleChange} {error : GatewayError}
    (h : e.revised c = .error error) : e.change c = (.error error, e) := by
  have hc := e.change_revises c
  rw [h] at hc
  generalize e.change c = result at hc
  cases hc with
  | error error => rfl

theorem change_policy_log (e : Engine) (c : RuleChange) :
    ∃ policy log, (e.change c).2 = { e with policy, log } := by
  cases hr : e.revised c with
  | ok r =>
    obtain ⟨text, hc⟩ := change_of_revised_ok hr
    rw [hc]
    exact ⟨_, _, rfl⟩
  | error error =>
    rw [change_of_revised_error hr]
    exact ⟨_, _, rfl⟩

theorem registry_change (e : Engine) (c : RuleChange) : (e.change c).2.registry = e.registry := by
  obtain ⟨policy, log, h⟩ := e.change_policy_log c
  rw [h]

theorem calls_change (e : Engine) (c : RuleChange) : (e.change c).2.calls = e.calls := by
  obtain ⟨policy, log, h⟩ := e.change_policy_log c
  rw [h]

end Engine
end SocksGateway
