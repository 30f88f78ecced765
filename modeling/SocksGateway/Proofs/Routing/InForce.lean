import SocksGateway.Proofs.Routing.Reference

namespace SocksGateway

namespace NetworkSet

theorem mem_insert_of_text {range : String} {n : Network} (h : Network.ofRangeText? range = some n)
    (s : NetworkSet) : n ∈ (s.insert n).ranges :=
  (s.mem_ranges_insert n n).2 (.inr (Network.truncate_of_ofRangeText? h).symm)

theorem mem_erase_of_text {s : NetworkSet} {range : String} {n m : Network} (h : n ∈ s.ranges)
    (hm : Network.ofRangeText? range = some m) (hn : Network.ofRangeText? range ≠ some n) :
    n ∈ (s.erase m).ranges := by
  refine (s.mem_ranges_erase m n).2 ⟨h, fun he => hn ?_⟩
  rw [hm, he, Network.truncate_of_ofRangeText? hm]

end NetworkSet

namespace RuleChange

theorem mem_revise_add {known : Handle → Bool} {k : RangeSet} {process range : String}
    {r s : Rule} (h : (k.add process range).revise known r = .ok s) :
    ∃ n, Network.ofRangeText? range = some n ∧ n ∈ (k.of s).ranges := by
  cases k with
  | allowed =>
    obtain ⟨n, hn, h⟩ := byRange_eq_ok h
    cases h
    exact ⟨n, hn, NetworkSet.mem_insert_of_text hn _⟩
  | denied =>
    obtain ⟨n, hn, h⟩ := byRange_eq_ok h
    cases h
    exact ⟨n, hn, NetworkSet.mem_insert_of_text hn _⟩

theorem mem_revise {known : Handle → Bool} {k : RangeSet} {c : RuleChange} {r s : Rule}
    {n : Network} (h : c.revise known r = .ok s) (hn : n ∈ (k.of r).ranges)
    (hd : ∀ range, c = k.drop c.process range → Network.ofRangeText? range ≠ some n) :
    n ∈ (k.of s).ranges := by
  cases c with
  | associate p h' =>
    rw [revise] at h
    split at h
    · cases h; cases k <;> exact hn
    · cases h
  | exclude p => cases h; cases k <;> exact hn
  | allow p range =>
    obtain ⟨m, -, h⟩ := byRange_eq_ok h
    cases h
    cases k with
    | allowed => exact (NetworkSet.mem_ranges_insert _ m n).2 (.inl hn)
    | denied => exact hn
  | deny p range =>
    obtain ⟨m, -, h⟩ := byRange_eq_ok h
    cases h
    cases k with
    | allowed => exact hn
    | denied => exact (NetworkSet.mem_ranges_insert _ m n).2 (.inl hn)
  | dropAllowed p range =>
    obtain ⟨m, hm, h⟩ := byRange_eq_ok h
    rw [without_eq_ok h]
    cases k with
    | allowed =>
      exact NetworkSet.mem_erase_of_text hn hm (hd range rfl)
    | denied => exact hn
  | dropDenied p range =>
    obtain ⟨m, hm, h⟩ := byRange_eq_ok h
    rw [without_eq_ok h]
    cases k with
    | allowed => exact hn
    | denied =>
      exact NetworkSet.mem_erase_of_text hn hm (hd range rfl)

end RuleChange

namespace Engine

/-- A range is in the set `k` of a process. -/
def InForce (e : Engine) (k : RangeSet) (process : String) (n : Network) : Prop :=
  n ∈ (k.of (e.policy.ruleFor process)).ranges

theorem InForce.get? {e : Engine} {k : RangeSet} {process : String} {n : Network}
    (h : e.InForce k process n) {q : String} (hq : ProcessName.key q = ProcessName.key process) :
    e.policy.get? q = some (e.policy.ruleFor process) := by
  rw [e.policy.get?_congr hq]
  unfold InForce PolicyTable.ruleFor at h
  cases hg : e.policy.get? process with
  | none =>
    rw [hg] at h
    cases k <;> cases h
  | some r => rw [PolicyTable.ruleFor_of_get? hg]

theorem ruleFor_change {e : Engine} {c : RuleChange} {s : Rule} (h : e.revised c = .ok s)
    (process : String) :
    (e.change c).2.policy.ruleFor process =
      if ProcessName.key process = ProcessName.key c.process then s
      else e.policy.ruleFor process := by
  obtain ⟨text, hc⟩ := change_of_revised_ok h
  have hs : s.key = ProcessName.key c.process := by
    rw [RuleChange.key_revise h, PolicyTable.key_ruleFor]
  rw [hc]
  show (e.policy.put s).ruleFor process = _
  rw [PolicyTable.ruleFor, PolicyTable.get?_put, hs]
  by_cases hk : ProcessName.key process = ProcessName.key c.process
  · rw [if_pos hk.symm, if_pos hk]
    rfl
  · rw [if_neg (Ne.symm hk), if_neg hk]
    rfl

theorem inForce_add {e : Engine} {k : RangeSet} {process range : String}
    (h : (e.change (k.add process range)).1 = .ok ()) :
    ∃ n, Network.ofRangeText? range = some n ∧
      (e.change (k.add process range)).2.InForce k process n := by
  cases hr : e.revised (k.add process range) with
  | error error =>
    rw [change_of_revised_error hr] at h
    cases h
  | ok s =>
    obtain ⟨n, hn, hs⟩ := RuleChange.mem_revise_add hr
    have hp : (k.add process range).process = process := by cases k <;> rfl
    refine ⟨n, hn, ?_⟩
    rw [InForce, ruleFor_change hr, if_pos (by rw [hp])]
    exact hs

theorem InForce.change {e : Engine} {k : RangeSet} {process : String} {n : Network}
    (h : e.InForce k process n) {c : RuleChange}
    (hd : ∀ q range, c = k.drop q range → ProcessName.key q = ProcessName.key process →
      Network.ofRangeText? range ≠ some n) : (e.change c).2.InForce k process n := by
  cases hr : e.revised c with
  | error error =>
    rw [change_of_revised_error hr]
    exact h
  | ok s =>
    rw [InForce, ruleFor_change hr]
    by_cases hk : ProcessName.key process = ProcessName.key c.process
    · rw [if_pos hk]
      have hsame : e.policy.ruleFor c.process = e.policy.ruleFor process :=
        PolicyTable.ruleFor_of_get? (h.get? hk.symm)
      refine RuleChange.mem_revise hr ?_ fun range hc => hd _ range hc hk.symm
      rw [hsame]
      exact h
    · rw [if_neg hk]
      exact h

theorem InForce.serve {e : Engine} {k : RangeSet} {process : String} {n : Network}
    (h : e.InForce k process n) {c : RoutingCall}
    (hd : ∀ q range, c = .change (k.drop q range) →
      ProcessName.key q = ProcessName.key process → Network.ofRangeText? range ≠ some n) :
    (e.serve c).2.InForce k process n := by
  cases c with
  | addProxy endpoint protocols credentials =>
    have hp : (e.register endpoint protocols credentials false).2.policy = e.policy := by
      unfold register
      split <;> rfl
    show n ∈
        (k.of ((e.register endpoint protocols credentials false).2.policy.ruleFor process)).ranges
    rw [hp]
    exact h
  | change c => exact h.change fun q range hc => hd q range (congrArg _ hc)
  | setLanBypass enabled => exact h
  | decide p d t => exact h

theorem InForce.served {e : Engine} {k : RangeSet} {process : String} {n : Network}
    (h : e.InForce k process n) {cs : List RoutingCall}
    (hd : ∀ q range, .change (k.drop q range) ∈ cs →
      ProcessName.key q = ProcessName.key process → Network.ofRangeText? range ≠ some n) :
    (e.served cs).InForce k process n := by
  induction cs generalizing e with
  | nil => exact h
  | cons c cs ih =>
    refine ih (h.serve fun q range hc => hd q range ?_) fun q range hm => hd q range (.tail _ hm)
    rw [hc]
    exact .head _

end Engine

theorem change_mem_of_routing {steps : List Step} {c : RuleChange}
    (h : .change c ∈ steps.filterMap Step.routing?) : .call (.change c) ∈ steps := by
  obtain ⟨op, hop, hr⟩ := exists_call_of_mem_routing h
  cases op with
  | change c => cases hr; exact hop
  | _ => cases hr

/-- Once a range was accepted it is in force until it is dropped. -/
theorem Gateway.inForce_after {g : Gateway} {k : RangeSet} {process range : String}
    {steps : List Step} (ha : (g.perform (.change (k.add process range))).1 = .ok .done)
    (hd : ∀ q text, .call (.change (k.drop q text)) ∈ steps →
      ProcessName.key q = ProcessName.key process →
      Network.ofRangeText? text ≠ Network.ofRangeText? range) :
    ∃ n, Network.ofRangeText? range = some n ∧
      (g.after (.call (.change (k.add process range)) :: steps)).InForce k process n := by
  have hok : (g.toEngine.change (k.add process range)).1 = .ok () := by
    cases hr : (g.toEngine.change (k.add process range)).1 with
    | ok u => rfl
    | error error =>
      have : (g.perform (.change (k.add process range))).1 = .error error := by
        show ((g.toEngine.change (k.add process range)).1.map fun _ => Answer.done) = _
        rw [hr]
        rfl
      rw [this] at ha
      cases ha
  obtain ⟨n, hn, hf⟩ := Engine.inForce_add hok
  refine ⟨n, hn, ?_⟩
  have hidle : (g.next (.call (.change (k.add process range)))).idle.InForce k process n := hf
  have hkeep := hidle.served fun q text hm => hn ▸ hd q text (change_mem_of_routing hm)
  rw [← idle_after] at hkeep
  exact hkeep
end SocksGateway
