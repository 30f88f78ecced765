import SocksGateway.Proofs.Routing.InForce
import SocksGateway.Proofs.Routing.Law

/-!
The effect of a range in force. Ranges only ever meet canonical addresses. For a destination that is
not mapped this is the address itself; for a mapped one it is an address of the other family, so
that ranges which hold the mapped address do nothing.
-/
namespace SocksGateway

def Address.Mapped (a : Address) : Prop := ∃ b : BitVec 32, a = .v6 (0#80 ++ 0xffff#16 ++ b)

namespace Network

theorem covers_canonical {n : Network} {a : Address} (h : n.Covers a) (hm : ¬ a.Mapped) :
    n.Covers a.canonical := by
  have hc := a.countsAs_canonical
  generalize a.canonical = ip at hc
  cases hc with
  | v4 a => exact h
  | mapped b => exact absurd ⟨b, rfl⟩ hm
  | v6 hb => exact h

theorem not_covers_canonical {n : Network} {a : Address} (h : n.Covers a) (hm : a.Mapped) :
    ¬ n.Covers a.canonical := by
  obtain ⟨b, rfl⟩ := hm
  rw [← Address.mapped_eq_append, Address.canonical_mapped]
  intro h'
  cases h
  cases h'

end Network

theorem Rule.decide_congr {r s : Rule} {a : Address} (ha : r.admits a = s.admits a)
    (hp : r.proxy = s.proxy) (registry : Registry) (protocol : Protocol) :
    r.decide registry a protocol = s.decide registry a protocol := by
  rw [decide, decide, ha, hp]

namespace NetworkSet

theorem contains_of_covers {s : NetworkSet} {n : Network} {a : Address} (hn : n ∈ s.ranges)
    (h : n.Covers a) : s.contains a = true :=
  (s.contains_iff_covers a).2 ⟨n, hn, h⟩

theorem contains_erase {s : NetworkSet} {n : Network} {a : Address} (h : ¬ n.Covers a) :
    (s.erase n).contains a = s.contains a := by
  rw [Bool.eq_iff_iff, contains_iff_covers, contains_iff_covers]
  constructor
  · intro hx
    obtain ⟨m, hm, hc⟩ := hx
    exact ⟨m, ((s.mem_ranges_erase n m).1 hm).1, hc⟩
  · intro hx
    obtain ⟨m, hm, hc⟩ := hx
    refine ⟨m, (s.mem_ranges_erase n m).2 ⟨hm, ?_⟩, hc⟩
    intro he
    subst he
    rw [← Network.contains_iff_covers, Network.contains_truncate,
      Network.contains_iff_covers] at hc
    exact h hc

end NetworkSet

namespace Engine

theorem evaluate_of_rule {e : Engine} {q : String} {r : Rule} (h : e.policy.get? q = some r)
    (a : Address) (protocol : Protocol) :
    e.evaluate q a protocol =
      if e.lan.bypasses a then .bypass else r.decide e.registry a protocol := by
  rw [evaluate, h]

/-- The engine without the allowed ranges of a process. -/
def allowingAll (e : Engine) (process : String) : Engine :=
  { e with policy := e.policy.put { e.policy.ruleFor process with allowed := {} } }

section
variable {e : Engine} {process q range : String} {n : Network} {destination : Endpoint}

theorem denied_of_not_mapped (h : e.InForce .denied process n)
    (hq : ProcessName.key q = ProcessName.key process) (hc : n.Covers destination.address)
    (hm : ¬ destination.address.Mapped) (protocol : Protocol) :
    (e.decide q destination protocol).1 = .bypass := by
  have hd := NetworkSet.contains_of_covers h (Network.covers_canonical hc hm)
  have hadm : (e.policy.ruleFor process).admits destination.address.canonical = false := by
    rw [Rule.admits, show (e.policy.ruleFor process).denied.contains _ = true from hd,
      Bool.not_true, Bool.and_false]
  show e.evaluate q destination.address.canonical protocol = _
  rw [evaluate_of_rule (h.get? hq), Rule.decide, hadm]
  split <;> rfl

theorem denied_of_mapped (h : e.InForce .denied process n)
    (hn : Network.ofRangeText? range = some n) (hq : ProcessName.key q = ProcessName.key process)
    (hc : n.Covers destination.address) (hm : destination.address.Mapped) (protocol : Protocol) :
    (e.decide q destination protocol).1 =
      ((e.change (.dropDenied process range)).2.decide q destination protocol).1 := by
  let r := e.policy.ruleFor process
  have hr : e.revised (.dropDenied process range) = .ok { r with denied := r.denied.erase n } := by
    have hhas : r.denied.has n = true := by
      rw [NetworkSet.has, Network.truncate_of_ofRangeText? hn]
      exact List.contains_iff_mem.2 h
    exact (RuleChange.byRange_of_text hn _).trans (RuleChange.without_of_has hhas process _)
  obtain ⟨text, hd⟩ := change_of_revised_ok hr
  have hget : (e.policy.put { r with denied := r.denied.erase n }).get? q =
      some { r with denied := r.denied.erase n } := by
    rw [PolicyTable.get?_put, if_pos]
    exact (e.policy.key_ruleFor process).trans hq.symm
  have hadm : r.admits destination.address.canonical =
      ({ r with denied := r.denied.erase n } : Rule).admits destination.address.canonical := by
    rw [Rule.admits, Rule.admits, NetworkSet.contains_erase (Network.not_covers_canonical hc hm)]
  rw [hd]
  show e.evaluate q destination.address.canonical protocol =
    (e.adopt (e.policy.put { r with denied := r.denied.erase n }) text).evaluate q
      destination.address.canonical protocol
  rw [evaluate_of_rule (h.get? hq), evaluate_of_rule hget, Rule.decide_congr hadm rfl]
  rfl

theorem allowed_decides (h : e.InForce .allowed process n)
    (hq : ProcessName.key q = ProcessName.key process) (destination : Endpoint)
    (protocol : Protocol) :
    let d := (e.decide q destination protocol).1
    let d' := ((e.allowingAll process).decide q destination protocol).1
    d = d' ↔ d' = .bypass ∨
      (e.policy.ruleFor process).allowed.contains destination.address.canonical = true := by
  intro d d'
  let r := e.policy.ruleFor process
  let ip := destination.address.canonical
  have hget : (e.allowingAll process).policy.get? q = some { r with allowed := {} } := by
    show (e.policy.put { r with allowed := {} }).get? q = _
    rw [PolicyTable.get?_put, if_pos]
    exact (e.policy.key_ruleFor process).trans hq.symm
  have hd : d = if e.lan.bypasses ip then .bypass else r.decide e.registry ip protocol :=
    evaluate_of_rule (h.get? hq) ip protocol
  have hd' : d' = if e.lan.bypasses ip then .bypass
      else ({ r with allowed := {} } : Rule).decide e.registry ip protocol :=
    evaluate_of_rule hget ip protocol
  have hne : r.allowed.isEmpty = false := by
    rw [NetworkSet.isEmpty, List.isEmpty_eq_false_iff]
    exact List.ne_nil_of_mem h
  cases hin : r.allowed.contains ip with
  | true =>
    have hadm : r.admits ip = ({ r with allowed := {} } : Rule).admits ip := by
      rw [Rule.admits, Rule.admits, hin, Bool.or_true]
      rfl
    have heq : d = d' := by rw [hd, hd', Rule.decide_congr hadm rfl]
    exact iff_of_true heq (.inr rfl)
  | false =>
    have hadm : r.admits ip = false := by
      rw [Rule.admits, hne, hin, Bool.or_false, Bool.and_false, Bool.false_and]
    have hb : d = .bypass := by
      rw [hd, Rule.decide, hadm]
      split <;> rfl
    constructor
    · intro heq
      exact .inl (heq ▸ hb)
    · intro hx
      rcases hx with hb' | hin'
      · rw [hb, hb']
      · cases hin'

end
end Engine

/-- What an accepted range does as long as it is not dropped. A denied range keeps the destinations
it covers from every proxy unless they are mapped, and then it does nothing; an allowed range admits
the destinations it covers unless they are mapped, and then it takes another range to admit them. -/
theorem Gateway.range_effect (g : Gateway) (before after : List Step) (process range : String) :
    (((g.after before).perform (.change (.deny process range))).1 = .ok .done →
      (∀ p text, .call (.change (.dropDenied p text)) ∈ after →
        ProcessName.key p = ProcessName.key process →
          Network.ofRangeText? text ≠ Network.ofRangeText? range) →
      ∃ n, Network.ofRangeText? range = some n ∧
        ∀ (q : String) (destination : Endpoint) (protocol : Protocol),
          ProcessName.key q = ProcessName.key process → n.Covers destination.address →
            let e := (g.after (before ++ .call (.change (.deny process range)) :: after)).toEngine
            let d := (e.decide q destination protocol).1
            let dropped :=
              ((e.change (.dropDenied process range)).2.decide q destination protocol).1
            (¬ destination.address.Mapped → ∀ route, d ≠ .proxy route) ∧
              (destination.address.Mapped → d = dropped)) ∧
    (((g.after before).perform (.change (.allow process range))).1 = .ok .done →
      (∀ p text, .call (.change (.dropAllowed p text)) ∈ after →
        ProcessName.key p = ProcessName.key process →
          Network.ofRangeText? text ≠ Network.ofRangeText? range) →
      ∃ n, Network.ofRangeText? range = some n ∧
        ∀ (q : String) (destination : Endpoint) (protocol : Protocol),
          ProcessName.key q = ProcessName.key process → n.Covers destination.address →
            let e := (g.after (before ++ .call (.change (.allow process range)) :: after)).toEngine
            let d := (e.decide q destination protocol).1
            let emptied := ((e.allowingAll process).decide q destination protocol).1
            (¬ destination.address.Mapped → d = emptied) ∧
              (destination.address.Mapped → (d = emptied ↔ emptied = .bypass ∨
                ∃ m ∈ (e.policy.ruleFor process).allowed.ranges,
                  m ≠ n ∧ m.Covers destination.address.canonical))) := by
  constructor
  · intro ha hd
    obtain ⟨n, hn, hf⟩ := inForce_after (k := .denied) ha hd
    refine ⟨n, hn, fun q destination protocol hq hc => ?_⟩
    intro e d dropped
    have he : e.InForce .denied process n := by
      simp only [e, after_append]
      exact hf
    constructor
    · intro hm route
      simp only [d, Engine.denied_of_not_mapped he hq hc hm]
      exact Decision.noConfusion
    · intro hm
      exact Engine.denied_of_mapped he hn hq hc hm protocol
  · intro ha hd
    obtain ⟨n, hn, hf⟩ := inForce_after (k := .allowed) ha hd
    refine ⟨n, hn, fun q destination protocol hq hc => ?_⟩
    intro e d emptied
    have he : e.InForce .allowed process n := by
      simp only [e, after_append]
      exact hf
    have hiff := Engine.allowed_decides he hq destination protocol
    constructor
    · intro hm
      exact hiff.2 (.inr (NetworkSet.contains_of_covers he (Network.covers_canonical hc hm)))
    · intro hm
      rw [NetworkSet.contains_iff_covers] at hiff
      refine hiff.trans (or_congr_right ?_)
      constructor
      · intro hx
        obtain ⟨m, hmem, hcov⟩ := hx
        refine ⟨m, hmem, ?_, hcov⟩
        intro he
        subst he
        exact Network.not_covers_canonical hc hm hcov
      · intro hx
        obtain ⟨m, hmem, -, hcov⟩ := hx
        exact ⟨m, hmem, hcov⟩

theorem Gateway.range_effect_of_mapped_ranges :
    let g := create {} .accepting {}
    let before : List Step :=
      [.call (.addProxy "127.0.0.1:1080" .both none false),
        .call (.change (.associate "curl" ⟨1⟩))]
    let destination : Endpoint := ⟨.v6 (0#80 ++ 0xffff#16 ++ 0x01020304#32) 0, 80⟩
    let denying :=
      (g.after (before ++ [.call (.change (.deny "curl" "::ffff:1.2.3.0/120"))])).toEngine
    let allowing :=
      (g.after (before ++ [.call (.change (.allow "curl" "::ffff:1.2.3.0/120"))])).toEngine
    (denying.decide "curl" destination .tcp).1 =
        ((denying.change (.dropDenied "curl" "::ffff:1.2.3.0/120")).2.decide "curl"
          destination .tcp).1 ∧
      ∃ n, Network.ofRangeText? "::ffff:1.2.3.0/120" = some n ∧
        let emptied := ((allowing.allowingAll "curl").decide "curl" destination .tcp).1
        ((allowing.decide "curl" destination .tcp).1 = emptied ↔ emptied = .bypass ∨
          ∃ m ∈ (allowing.policy.ruleFor "curl").allowed.ranges,
            m ≠ n ∧ m.Covers destination.address.canonical) := by
  intro g before destination denying allowing
  have hmapped : destination.address.Mapped := ⟨0x01020304#32, rfl⟩
  have hcovers : ∀ n, Network.ofRangeText? "::ffff:1.2.3.0/120" = some n →
      n.Covers destination.address := by
    intro n hn
    have hc : (Network.ofRangeText? "::ffff:1.2.3.0/120").any
        (·.contains destination.address) = true := by
      decide +kernel
    rw [hn] at hc
    exact (n.contains_iff_covers _).1 hc
  constructor
  · obtain ⟨n, hn, h⟩ :=
      (range_effect g before [] "curl" "::ffff:1.2.3.0/120").1 (by decide +kernel) (by simp)
    exact (h "curl" destination .tcp rfl (hcovers n hn)).2 hmapped
  · obtain ⟨n, hn, h⟩ :=
      (range_effect g before [] "curl" "::ffff:1.2.3.0/120").2 (by decide +kernel) (by simp)
    refine ⟨n, hn, ?_⟩
    intro emptied
    simp only [emptied, allowing]
    exact (h "curl" destination .tcp rfl (hcovers n hn)).2 hmapped

/-- A denied range that does not keep a destination in it from the proxy. -/
theorem Gateway.proxied_in_denied_range :
    let g := create {} .accepting {}
    let steps : List Step :=
      [.call (.addProxy "127.0.0.1:1080" .both none false),
        .call (.change (.associate "curl" ⟨1⟩)),
        .call (.change (.deny "curl" "::ffff:1.2.3.0/120"))]
    let destination : Endpoint := ⟨.v6 (0#80 ++ 0xffff#16 ++ 0x01020304#32) 0, 80⟩
    (g.transcript steps).map (·.2) = [.ok (.handle ⟨1⟩), .ok .done, .ok .done] ∧
      (Network.ofRangeText? "::ffff:1.2.3.0/120").any (·.contains destination.address) = true ∧
      ((g.after steps).toEngine.decide "curl" destination .tcp).1 =
        .proxy ⟨⟨1⟩, ⟨.v4 0x7f000001#32, 1080⟩, none⟩ := by
  decide +kernel

end SocksGateway
