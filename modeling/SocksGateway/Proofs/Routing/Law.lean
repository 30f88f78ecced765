import SocksGateway.Engine.Decision
import SocksGateway.Proofs.Net.LeadingBits
import SocksGateway.Proofs.Policy.Lookup
import SocksGateway.Proofs.Proxy.Lookup

namespace SocksGateway

/-- What a rule asks of an address that is to go through its proxy. -/
structure Rule.Admits (r : Rule) (ip : Address) : Prop where
  notExcluded : r.excluded = false
  allowed : r.allowed.ranges = [] ∨ ∃ n ∈ r.allowed.ranges, n.Covers ip
  notDenied : ∀ n ∈ r.denied.ranges, ¬ n.Covers ip

theorem Rule.admits_iff (r : Rule) (ip : Address) : r.admits ip = true ↔ r.Admits ip := by
  have hd : (!r.denied.contains ip) = true ↔ ∀ n ∈ r.denied.ranges, ¬ n.Covers ip := by
    rw [Bool.not_eq_true', ← Bool.not_eq_true, NetworkSet.contains_iff_covers]
    simp
  have ha : (r.allowed.isEmpty || r.allowed.contains ip) = true ↔
      r.allowed.ranges = [] ∨ ∃ n ∈ r.allowed.ranges, n.Covers ip := by
    rw [Bool.or_eq_true, NetworkSet.contains_iff_covers, NetworkSet.isEmpty, List.isEmpty_iff]
  rw [admits, Bool.and_eq_true, Bool.and_eq_true, hd, ha, Bool.not_eq_true']
  constructor
  · intro hx
    obtain ⟨⟨h1, h2⟩, h3⟩ := hx
    exact ⟨h1, h2, h3⟩
  · intro hx
    obtain ⟨h1, h2, h3⟩ := hx
    exact ⟨⟨h1, h2⟩, h3⟩

namespace Registry

theorem offer_eq_proxy_iff (r : Registry) (h : Handle) (protocol : Protocol) (route : Route) :
    r.offer h protocol = .proxy route ↔ ∃ p ∈ r.proxies, p.handle = h ∧
      (p.protocols = .both ∨ p.protocols.name = protocol.name) ∧
        route = ⟨h, p.endpoint, p.credentials⟩ := by
  constructor
  · intro ho
    unfold offer at ho
    split at ho
    next => cases ho
    next p hp =>
      split at ho
      next hs =>
        obtain ⟨hm, rfl⟩ := (r.get?_eq_some_iff h p).1 hp
        refine ⟨p, hm, rfl, (p.protocols.supports_iff protocol).1 hs, ?_⟩
        exact (Decision.proxy.inj ho).symm
      next => cases ho
  · intro hx
    obtain ⟨p, hm, rfl, hs, rfl⟩ := hx
    have hp : r.get? p.handle = some p := (r.get?_eq_some_iff _ p).2 ⟨hm, rfl⟩
    simp [offer, hp, (p.protocols.supports_iff protocol).2 hs, Proxy.route]

theorem offer_eq_unavailable_iff (r : Registry) (h : Handle) (protocol : Protocol) :
    r.offer h protocol = .block .proxyUnavailable ↔ ∀ p ∈ r.proxies, p.handle ≠ h := by
  rw [← get?_eq_none_iff, offer]
  cases r.get? h with
  | none => simp
  | some p => by_cases hs : p.protocols.supports protocol <;> simp [hs]

theorem offer_eq_mismatch_iff (r : Registry) (h : Handle) (protocol : Protocol) :
    r.offer h protocol = .block .protocolMismatch ↔ ∃ p ∈ r.proxies, p.handle = h ∧
      ¬ (p.protocols = .both ∨ p.protocols.name = protocol.name) := by
  have hget : (∃ p ∈ r.proxies, p.handle = h ∧
      ¬ (p.protocols = .both ∨ p.protocols.name = protocol.name)) ↔
      ∃ p, r.get? h = some p ∧ ¬ p.protocols.supports protocol = true := by
    simp only [get?_eq_some_iff, and_assoc, ProtocolMask.supports_iff]
  rw [hget, offer]
  cases r.get? h with
  | none => simp
  | some p => by_cases hs : p.protocols.supports protocol <;> simp [hs]

theorem offer_ne_bypass (r : Registry) (h : Handle) (protocol : Protocol) :
    r.offer h protocol ≠ .bypass := by
  unfold offer
  split
  · simp
  · split <;> simp

end Registry

namespace Engine

/-- Connections of a process to an address are meant for the proxy under a handle, whether or not
the registry has such a proxy. -/
structure Assigns (e : Engine) (process : String) (ip : Address) (h : Handle) : Prop where
  notLocal : ¬ (e.lan.enabled = true ∧ ip.Local)
  rule : ∃ r ∈ e.policy.rules, r.key = ProcessName.key process ∧
    r.Admits ip ∧ r.proxy = some h

theorem evaluate_of_assigns {e : Engine} {process : String} {a : Address} {h : Handle}
    (ha : e.Assigns process a.canonical h) (protocol : Protocol) :
    e.evaluate process a.canonical protocol = e.registry.offer h protocol := by
  obtain ⟨hl, r, hr, hk, hadm, hp⟩ := ha
  have hget : e.policy.get? process = some r := (e.policy.get?_eq_some_iff process r).2 ⟨hr, hk⟩
  rw [← LocalFilter.bypasses_canonical_iff] at hl
  simp [evaluate, hl, hget, Rule.decide, (r.admits_iff _).2 hadm, hp]

theorem evaluate_of_not_assigns {e : Engine} {process : String} {a : Address}
    (ha : ∀ h, ¬ e.Assigns process a.canonical h) (protocol : Protocol) :
    e.evaluate process a.canonical protocol = .bypass := by
  unfold evaluate
  split
  next => rfl
  next hl =>
    rw [LocalFilter.bypasses_canonical_iff] at hl
    split
    next r hget =>
      obtain ⟨hr, hk⟩ := (e.policy.get?_eq_some_iff process r).1 hget
      unfold Rule.decide
      split
      next hadm =>
        split
        next h hp => exact absurd ⟨hl, r, hr, hk, (r.admits_iff _).1 hadm, hp⟩ (ha h)
        next => rfl
      next => rfl
    next => rfl

theorem Assigns.unique {e : Engine} {process : String} {ip : Address} {h k : Handle}
    (hh : e.Assigns process ip h) (hk : e.Assigns process ip k) : h = k := by
  obtain ⟨-, r, hr, hrk, -, hp⟩ := hh
  obtain ⟨-, s, hs, hsk, -, hq⟩ := hk
  have hr' := (e.policy.get?_eq_some_iff process r).2 ⟨hr, hrk⟩
  have hs' := (e.policy.get?_eq_some_iff process s).2 ⟨hs, hsk⟩
  obtain rfl : r = s := Option.some.inj (hr'.symm.trans hs')
  exact Option.some.inj (hp.symm.trans hq)

/-- The four outcomes of a decision, each with the exact condition for it. -/
theorem decide_law (e : Engine) (process : String) (destination : Endpoint) (protocol : Protocol) :
    let ip := destination.address.canonical
    let d := (e.decide process destination protocol).1
    destination.address.CountsAs ip ∧
    (∀ route, d = .proxy route ↔ ∃ h, e.Assigns process ip h ∧
      ∃ p ∈ e.registry.proxies, p.handle = h ∧
        (p.protocols = .both ∨ p.protocols.name = protocol.name) ∧
          route = ⟨h, p.endpoint, p.credentials⟩) ∧
    (d = .block .proxyUnavailable ↔ ∃ h, e.Assigns process ip h ∧
      ∀ p ∈ e.registry.proxies, p.handle ≠ h) ∧
    (d = .block .protocolMismatch ↔ ∃ h, e.Assigns process ip h ∧
      ∃ p ∈ e.registry.proxies, p.handle = h ∧
        ¬ (p.protocols = .both ∨ p.protocols.name = protocol.name)) ∧
    (d = .bypass ↔ ∀ h, ¬ e.Assigns process ip h) := by
  intro ip d
  refine ⟨destination.address.countsAs_canonical, ?_⟩
  by_cases ha : ∃ h, e.Assigns process ip h
  · obtain ⟨h, hh⟩ := ha
    have hd : d = e.registry.offer h protocol := evaluate_of_assigns hh protocol
    -- the handle is determined, so each existential is about `h`
    have hone : ∀ P : Handle → Prop, (∃ k, e.Assigns process ip k ∧ P k) ↔ P h := fun P =>
      ⟨fun ⟨k, hk, hP⟩ => hh.unique hk ▸ hP, fun hP => ⟨h, hh, hP⟩⟩
    rw [hd]
    refine ⟨fun route => ?_, ?_, ?_, ?_⟩
    · rw [hone, Registry.offer_eq_proxy_iff]
    · rw [hone, Registry.offer_eq_unavailable_iff]
    · rw [hone, Registry.offer_eq_mismatch_iff]
    · exact ⟨fun hb => absurd hb (e.registry.offer_ne_bypass h protocol),
        fun hn => absurd hh (hn h)⟩
  · have hn : ∀ h, ¬ e.Assigns process ip h := fun h hh => ha ⟨h, hh⟩
    have hd : d = .bypass := evaluate_of_not_assigns hn protocol
    have hnone : ∀ P : Handle → Prop, ¬ ∃ k, e.Assigns process ip k ∧ P k :=
      fun P ⟨k, hk, _⟩ => hn k hk
    rw [hd]
    refine ⟨fun route => ?_, ?_, ?_, ?_⟩
    · exact iff_of_false (by simp) (hnone _)
    · exact iff_of_false (by simp) (hnone _)
    · exact iff_of_false (by simp) (hnone _)
    · exact iff_of_true rfl hn

end Engine
end SocksGateway
