import SocksGateway.Proofs.Routing.RangeEffect
import SocksGateway.Proofs.Routing.RangeSets
import SocksGateway.Proofs.Text.AsciiCase

/-!
What a range changes. The decisions of a process depend on its rule alone, and on the rule only
through the addresses that it admits. A denied range takes its own addresses away; the first allowed
range takes away all but its own, and each further one gives its own back. To add a range and drop
it again changes no decision.
-/
namespace SocksGateway

namespace Rule
variable {r s : Rule} {registry : Registry} {a : Address} {protocol : Protocol}

theorem decide_of_not_admits (h : r.admits a = false) : r.decide registry a protocol = .bypass := by
  rw [decide, h]
  rfl

theorem decide_ne (hp : s.proxy = r.proxy)
    (h : s.decide registry a protocol ≠ r.decide registry a protocol) :
    (r.admits a = true ∧ s.admits a = false) ∨ (r.admits a = false ∧ s.admits a = true) := by
  have hadm : s.admits a ≠ r.admits a := fun he => h (decide_congr he hp registry protocol)
  cases hr : r.admits a with
  | true => exact .inl ⟨rfl, Bool.eq_false_iff.2 fun hs => hadm (hs.trans hr.symm)⟩
  | false => exact .inr ⟨rfl, eq_true_of_ne_false fun hs => hadm (hs.trans hr.symm)⟩

end Rule

namespace RangeSet

theorem admits_deny (r : Rule) (n : Network) (a : Address) :
    (denied.edit (·.insert n) r).admits a = (r.admits a && !n.contains a) := by
  simp [Rule.admits, edit, NetworkSet.contains_insert, Bool.and_assoc]

theorem isEmpty_insert (s : NetworkSet) (n : Network) : (s.insert n).isEmpty = false := by
  rw [NetworkSet.isEmpty, List.isEmpty_eq_false_iff_exists_mem]
  exact ⟨_, (s.mem_ranges_insert n _).2 (.inr rfl)⟩

theorem admits_allow_first {r : Rule} (h : r.allowed.ranges = []) (n : Network) (a : Address) :
    (allowed.edit (·.insert n) r).admits a = (r.admits a && n.contains a) := by
  have hempty : r.allowed.isEmpty = true := List.isEmpty_iff.2 h
  have hnone : r.allowed.contains a = false := by simp [NetworkSet.contains, h]
  simp only [Rule.admits, edit, isEmpty_insert, NetworkSet.contains_insert, hempty, hnone,
    Bool.false_or, Bool.true_or, Bool.and_true]
  exact Bool.and_right_comm _ _ _

theorem admits_allow_further {r : Rule} (h : r.allowed.ranges ≠ []) (n : Network) (a : Address) :
    (allowed.edit (·.insert n) r).admits a =
      (r.admits a || (n.contains a && { r with allowed := {} }.admits a)) := by
  have hempty : r.allowed.isEmpty = false := List.isEmpty_eq_false_iff.2 h
  simp only [Rule.admits, edit, isEmpty_insert, NetworkSet.contains_insert, hempty, Bool.false_or]
  cases r.excluded <;> cases r.allowed.contains a <;> cases n.contains a <;>
    cases r.denied.contains a <;> rfl

end RangeSet

namespace Engine

theorem evaluate_eq (e : Engine) (process : String) (a : Address) (protocol : Protocol) :
    e.evaluate process a protocol =
      if e.lan.bypasses a then .bypass
      else (e.policy.ruleFor process).decide e.registry a protocol := by
  cases hget : e.policy.get? process with
  | some r => rw [evaluate_of_rule hget, PolicyTable.ruleFor_of_get? hget]
  | none =>
    have hnew : (Rule.ofName process).decide e.registry a protocol = .bypass := by
      unfold Rule.decide
      split <;> rfl
    rw [evaluate, hget, PolicyTable.ruleFor, hget]
    simp [hnew]

theorem evaluate_congr_key (e : Engine) {p q : String} (h : ProcessName.key q = ProcessName.key p)
    (a : Address) (protocol : Protocol) : e.evaluate q a protocol = e.evaluate p a protocol := by
  rw [evaluate, evaluate, e.policy.get?_congr h]

theorem lan_change (e : Engine) (c : RuleChange) : (e.change c).2.lan = e.lan := by
  obtain ⟨policy, log, h⟩ := e.change_policy_log c
  rw [h]

section
variable {e : Engine} {c : RuleChange} {s : Rule} {q : String} {a : Address} {protocol : Protocol}

theorem evaluate_change (h : e.revised c = .ok s) (q : String) (a : Address) (protocol : Protocol) :
    (e.change c).2.evaluate q a protocol =
      if ProcessName.key q = ProcessName.key c.process then
        if e.lan.bypasses a then .bypass else s.decide e.registry a protocol
      else e.evaluate q a protocol := by
  rw [evaluate_eq, registry_change, lan_change, ruleFor_change h]
  by_cases hkey : ProcessName.key q = ProcessName.key c.process
  · rw [if_pos hkey, if_pos hkey]
  · rw [if_neg hkey, if_neg hkey, evaluate_eq]

/-- A change that keeps the proxy changes a decision only where one of the two rules does not admit
the address. -/
theorem admits_of_evaluate_ne (h : e.revised c = .ok s)
    (hp : s.proxy = (e.policy.ruleFor c.process).proxy)
    (hne : (e.change c).2.evaluate q a protocol ≠ e.evaluate q a protocol) :
    ProcessName.key q = ProcessName.key c.process ∧
      (((e.policy.ruleFor c.process).admits a = true ∧ s.admits a = false ∧
          (e.change c).2.evaluate q a protocol = .bypass) ∨
        ((e.policy.ruleFor c.process).admits a = false ∧ s.admits a = true ∧
          e.evaluate q a protocol = .bypass)) := by
  have hafter := evaluate_change h q a protocol
  by_cases hkey : ProcessName.key q = ProcessName.key c.process
  · have hbefore :=
      (e.evaluate_congr_key hkey a protocol).trans (e.evaluate_eq c.process a protocol)
    rw [if_pos hkey] at hafter
    cases hl : e.lan.bypasses a with
    | true =>
      rw [hl] at hafter hbefore
      exact absurd (hafter.trans hbefore.symm) hne
    | false =>
      rw [hl] at hafter hbefore
      have hrules : s.decide e.registry a protocol ≠
          (e.policy.ruleFor c.process).decide e.registry a protocol :=
        fun he => hne (hafter.trans (he.trans hbefore.symm))
      refine ⟨hkey, ?_⟩
      rcases Rule.decide_ne hp hrules with ⟨hr, hs⟩ | ⟨hr, hs⟩
      · exact .inl ⟨hr, hs, hafter.trans (Rule.decide_of_not_admits hs)⟩
      · exact .inr ⟨hr, hs, hbefore.trans (Rule.decide_of_not_admits hr)⟩
  · rw [if_neg hkey] at hafter
    exact absurd hafter hne

end

section
variable {e : Engine} {process range : String} {n : Network}
  (hn : Network.ofRangeText? range = some n)
  {q : String} {a : Address} {protocol : Protocol}
include hn

theorem bypass_of_deny
    (h : (e.change (.deny process range)).2.evaluate q a protocol ≠ e.evaluate q a protocol) :
    ProcessName.key q = ProcessName.key process ∧ n.Covers a ∧
      (e.change (.deny process range)).2.evaluate q a protocol = .bypass := by
  have hr := revised_add e .denied process hn
  obtain ⟨hkey, ⟨hbefore, hafter, hb⟩ | ⟨hbefore, hafter, -⟩⟩ :=
    admits_of_evaluate_ne hr (RangeSet.proxy_edit .denied _ _) h
  · have hbefore : (e.policy.ruleFor process).admits a = true := hbefore
    rw [RangeSet.admits_deny, hbefore, Bool.true_and, Bool.not_eq_false'] at hafter
    exact ⟨hkey, (n.contains_iff_covers a).1 hafter, hb⟩
  · have hbefore : (e.policy.ruleFor process).admits a = false := hbefore
    rw [RangeSet.admits_deny, hbefore] at hafter
    cases hafter

theorem of_allow
    (h : (e.change (.allow process range)).2.evaluate q a protocol ≠ e.evaluate q a protocol) :
    ProcessName.key q = ProcessName.key process ∧
      if (e.policy.ruleFor process).allowed.ranges = [] then
        ¬ n.Covers a ∧ (e.change (.allow process range)).2.evaluate q a protocol = .bypass
      else n.Covers a ∧ e.evaluate q a protocol = .bypass := by
  have hr := revised_add e .allowed process hn
  obtain ⟨hkey, hcases⟩ := admits_of_evaluate_ne hr (RangeSet.proxy_edit .allowed _ _) h
  refine ⟨hkey, ?_⟩
  rw [← n.contains_iff_covers]
  split
  next hfirst =>
    rw [RangeSet.admits_allow_first hfirst] at hcases
    rcases hcases with ⟨hbefore, hafter, hb⟩ | ⟨hbefore, hafter, -⟩
    · rw [show (e.policy.ruleFor process).admits a = true from hbefore, Bool.true_and] at hafter
      exact ⟨Bool.eq_false_iff.1 hafter, hb⟩
    · rw [show (e.policy.ruleFor process).admits a = false from hbefore] at hafter
      cases hafter
  next hfurther =>
    rw [RangeSet.admits_allow_further hfurther] at hcases
    rcases hcases with ⟨hbefore, hafter, -⟩ | ⟨hbefore, hafter, hb⟩
    · rw [show (e.policy.ruleFor process).admits a = true from hbefore] at hafter
      cases hafter
    · rw [show (e.policy.ruleFor process).admits a = false from hbefore, Bool.false_or,
        Bool.and_eq_true] at hafter
      exact ⟨hafter.1, hb⟩

end

/-- A range that is added and dropped again leaves every decision as it was, whatever its spelling
and the case of the process's name. -/
theorem evaluate_drop_add {e : Engine} {k : RangeSet} {process range process' range' : String}
    {n : Network} (hn : Network.ofRangeText? range = some n)
    (hn' : Network.ofRangeText? range' = some n)
    (hkey : ProcessName.key process' = ProcessName.key process) (hnot : ¬ e.InForce k process n) :
    ((e.change (k.add process range)).2.change (k.drop process' range')).1 = .ok () ∧
      ∀ q a protocol,
        ((e.change (k.add process range)).2.change (k.drop process' range')).2.evaluate
        q a protocol =
        e.evaluate q a protocol := by
  have hadd := revised_add e k process hn
  have hrule : (e.change (k.add process range)).2.policy.ruleFor process' =
      k.edit (·.insert n) (e.policy.ruleFor process) := by
    rw [ruleFor_change hadd, k.process_add, if_pos hkey]
  have hmem : n.truncate ∉ (k.of (e.policy.ruleFor process)).ranges := by
    rw [Network.truncate_of_ofRangeText? hn]
    exact hnot
  have hdrop := revised_drop (e.change (k.add process range)).2 k process' hn'
  rw [hrule, k.of_edit, if_pos (NetworkSet.has_insert_self _ n), k.edit_edit,
    RangeSet.edit_eq_self (NetworkSet.erase_insert hmem)] at hdrop
  constructor
  · obtain ⟨text, hc⟩ := change_of_revised_ok hdrop
    rw [hc]
  · intro q a protocol
    rw [evaluate_change hdrop, evaluate_change hadd, registry_change, lan_change,
      k.process_add, k.process_drop, hkey]
    split
    next hq => rw [evaluate_congr_key e hq, evaluate_eq]
    next => rfl

/-- The decisions that a range changes: to deny it turns connections of its process to its
addresses, and only to direct ones; to allow it, when others are allowed, turns direct connections
of its process to its addresses, and as the first one all connections to other addresses, to direct
ones. Added and dropped again it changes none. -/
theorem range_change (e : Engine) {process range : String} {n : Network}
    (hn : Network.ofRangeText? range = some n) :
    (let denying := e.change (.deny process range);
      denying.1 = .ok () ∧ ∀ (q : String) (destination : Endpoint) (protocol : Protocol),
        let before := (e.decide q destination protocol).1
        let after := (denying.2.decide q destination protocol).1
        after ≠ before → ProcessName.key q = ProcessName.key process ∧
          n.Covers destination.address.canonical ∧ after = .bypass) ∧
    (let allowing := e.change (.allow process range);
      allowing.1 = .ok () ∧ ∀ (q : String) (destination : Endpoint) (protocol : Protocol),
        let before := (e.decide q destination protocol).1
        let after := (allowing.2.decide q destination protocol).1
        after ≠ before → ProcessName.key q = ProcessName.key process ∧
          if (e.policy.ruleFor process).allowed.ranges = [] then
            ¬ n.Covers destination.address.canonical ∧ after = .bypass
          else n.Covers destination.address.canonical ∧ before = .bypass) ∧
    ∀ (k : RangeSet) (process' range' : String), ¬ e.InForce k process n →
      ProcessName.SameLetters process' process → Network.ofRangeText? range' = some n →
        let added := e.change (k.add process range)
        let dropped := added.2.change (k.drop process' range')
        added.1 = .ok () ∧ dropped.1 = .ok () ∧
          ∀ (q : String) (destination : Endpoint) (protocol : Protocol),
          (dropped.2.decide q destination protocol).1 = (e.decide q destination protocol).1 := by
  refine ⟨⟨answer_add e .denied process hn,
    fun q destination protocol h => bypass_of_deny hn h⟩,
    ⟨answer_add e .allowed process hn, fun q destination protocol h => of_allow hn h⟩, ?_⟩
  intro k process' range' hnot hp hn'
  obtain ⟨hok, hsame⟩ := evaluate_drop_add hn hn' (ProcessName.key_of_sameLetters hp) hnot
  exact ⟨answer_add e k process hn, hok,
    fun q destination protocol => hsame q destination.address.canonical protocol⟩

theorem range_change_of_spellings :
    let e := ((Gateway.create {} .accepting {}).after
      [.call (.addProxy "127.0.0.1:1080" .both none false),
        .call (.change (.associate "curl" ⟨1⟩))]).toEngine
    let n : Network := .v4 ⟨0x0a010000#32, 16, by decide⟩
    let destination : Endpoint := ⟨.v4 0x0a010909#32, 443⟩
    let denying := e.change (.deny "curl" "10.1.2.3/16")
    let dropped := denying.2.change (.dropDenied "CURL" " 10.1.0.0/16 ")
    let allowing := e.change (.allow "curl" "10.1.2.3/16")
    Network.ofRangeText? "10.1.2.3/16" = some n ∧
      (e.decide "curl" destination .tcp).1 =
        .proxy ⟨⟨1⟩, ⟨.v4 0x7f000001#32, 1080⟩, none⟩ ∧
      (denying.2.decide "Curl" destination .tcp).1 = .bypass ∧
        n.Covers destination.address.canonical ∧
      (∀ far : Endpoint, (allowing.2.decide "curl" far .tcp).1 ≠
        (e.decide "curl" far .tcp).1 →
        ¬ n.Covers far.address.canonical) ∧
      dropped.1 = .ok () ∧ (dropped.2.decide "curl" destination .tcp).1 =
        (e.decide "curl" destination .tcp).1 := by
  intro e n destination denying dropped allowing
  have hn : Network.ofRangeText? "10.1.2.3/16" = some n := by decide +kernel
  have hproxy : (e.decide "curl" destination .tcp).1 =
      .proxy ⟨⟨1⟩, ⟨.v4 0x7f000001#32, 1080⟩, none⟩ := by
    decide +kernel
  have hne : (denying.2.decide "Curl" destination .tcp).1 ≠
      (e.decide "Curl" destination .tcp).1 := by decide +kernel
  have hfirst : (e.policy.ruleFor "curl").allowed.ranges = [] := by decide +kernel
  have hnot : ¬ e.InForce .denied "curl" n := by
    show n ∉ (e.policy.ruleFor "curl").denied.ranges
    decide +kernel
  obtain ⟨⟨-, hdeny⟩, ⟨-, hallow⟩, hdrop⟩ := range_change e hn
  obtain ⟨-, hcovers, hbypass⟩ := hdeny "Curl" destination .tcp hne
  obtain ⟨-, hok, hsame⟩ :=
    hdrop .denied "CURL" " 10.1.0.0/16 " hnot (by decide +kernel) (by decide +kernel)
  refine ⟨hn, hproxy, hbypass, hcovers, fun far hfar => ?_, hok, hsame "curl" destination .tcp⟩
  have hfar := (hallow "curl" far .tcp hfar).2
  rw [if_pos hfirst] at hfar
  exact hfar.1

end Engine
end SocksGateway
