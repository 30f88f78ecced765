import SocksGateway.Proofs.Routing.Independence
import SocksGateway.Proofs.Routing.Law

namespace SocksGateway

namespace Engine

theorem Grounded.of_idle {e : Engine} (hg : e.idle.Grounded) : e.Grounded := by
  intro process r h hr hp
  rw [← Registry.contains_idle]
  exact hg process r h hr hp

theorem Grounded.registered {e : Engine} (hg : e.Grounded) {r : Rule} (hr : r ∈ e.policy.rules)
    {h : Handle} (hp : r.proxy = some h) : ∃ p ∈ e.registry.proxies, p.handle = h := by
  have hget : e.policy.get? r.name = some r := (e.policy.get?_eq_some_iff r.name r).2 ⟨hr, rfl⟩
  obtain ⟨p, hfound⟩ := Option.isSome_iff_exists.1 (hg r.name r h hget hp)
  exact ⟨p, (e.registry.get?_eq_some_iff h p).1 hfound⟩

/-- Where rules name registered proxies, the assigned proxy's mask is all that can block a
connection. -/
theorem Grounded.decide_eq_block_iff {e : Engine} (hg : e.Grounded) (process : String)
    (destination : Endpoint) (protocol : Protocol) (reason : BlockReason) :
    (e.decide process destination protocol).1 = .block reason ↔
      reason = .protocolMismatch ∧ ∃ h, e.Assigns process destination.address.canonical h ∧
        ∃ p ∈ e.registry.proxies, p.handle = h ∧
          ¬ (p.protocols = .both ∨ p.protocols.name = protocol.name) := by
  show e.evaluate process destination.address.canonical protocol = _ ↔ _
  by_cases ha : ∃ h, e.Assigns process destination.address.canonical h
  · obtain ⟨h, hh⟩ := ha
    obtain ⟨r, hr, -, -, hp⟩ := hh.rule
    obtain ⟨p, hm, rfl⟩ := hg.registered hr hp
    rw [evaluate_of_assigns hh]
    cases reason with
    | proxyUnavailable =>
      rw [Registry.offer_eq_unavailable_iff]
      exact iff_of_false (fun hnone => hnone p hm rfl) (by simp)
    | protocolMismatch =>
      rw [Registry.offer_eq_mismatch_iff]
      constructor
      · intro hx
        exact ⟨rfl, p.handle, hh, hx⟩
      · intro hx
        obtain ⟨-, k, hk, hx⟩ := hx
        rw [hh.unique hk]
        exact hx
  · have hn : ∀ h, ¬ e.Assigns process destination.address.canonical h :=
      fun h hh => ha ⟨h, hh⟩
    rw [evaluate_of_not_assigns hn]
    refine iff_of_false (by simp) ?_
    intro hx
    obtain ⟨-, h, hh, -⟩ := hx
    exact hn h hh

/-- Rules name registered proxies, no connection is blocked for want of its proxy, and one is
blocked exactly if the proxy that it was assigned to does not carry its protocol. -/
structure Intact (e : Engine) : Prop where
  registered : ∀ r ∈ e.policy.rules, ∀ h, r.proxy = some h →
    ∃ p ∈ e.registry.proxies, p.handle = h
  available (process : String) (destination : Endpoint) (protocol : Protocol) :
    (e.decide process destination protocol).1 ≠ .block .proxyUnavailable
  blocked (process : String) (destination : Endpoint) (protocol : Protocol) (reason : BlockReason) :
    (e.decide process destination protocol).1 = .block reason ↔
      reason = .protocolMismatch ∧ ∃ h, e.Assigns process destination.address.canonical h ∧
        ∃ p ∈ e.registry.proxies, p.handle = h ∧
          ¬ (p.protocols = .both ∨ p.protocols.name = protocol.name)

theorem Grounded.intact {e : Engine} (hg : e.Grounded) : e.Intact := by
  refine ⟨fun r hr h hp => hg.registered hr hp, fun process destination protocol hu => ?_,
    hg.decide_eq_block_iff⟩
  obtain ⟨hreason, -⟩ :=
    (hg.decide_eq_block_iff process destination protocol .proxyUnavailable).1 hu
  cases hreason

end Engine

namespace Gateway

/-- Whatever a gateway went through, no reference of its rules is ever lost. -/
theorem intact_after {o : Origin} {relay : Relay} {files : FileTree} {g : Gateway}
    (hg : o.build relay files = .ok g) (steps : List Step) : (g.after steps).Intact := by
  refine Engine.Grounded.intact (Engine.Grounded.of_idle ?_)
  rw [idle_after, Origin.idle_build hg]
  exact ((Engine.grounded_fresh o.lan).served o.calls).served _

theorem intact_after_failures :
    let relay : Relay := ⟨fun _ _ => some ⟨["refused"]⟩⟩
    let steps : List Step := [.call (.addProxy "127.0.0.1:1080" .tcp none true), .call .start,
      .call (.change (.associate "curl" ⟨1⟩)), .call (.change (.associate "wget" ⟨2⟩)),
        .call .stop, .call .start]
    let g := (create {} relay {}).after steps
    g.Intact ∧ g.policy.rules.map (·.proxy) = [some ⟨1⟩] ∧
      ∃ h, g.Assigns "curl" (.v4 16909060) h ∧
        ∃ p ∈ g.registry.proxies, p.handle = h ∧
          ¬ (p.protocols = .both ∨ p.protocols.name = Protocol.udp.name) := by
  intro relay steps g
  have hintact :=
    intact_after (o := .options {}) (rfl : Origin.build relay {} (.options {}) = _) steps
  change g.Intact at hintact
  have hblocked : (g.toEngine.decide "curl" ⟨.v4 16909060, 80⟩ .udp).1 =
      .block .protocolMismatch := by
    decide +kernel
  exact ⟨hintact, by decide +kernel,
    ((hintact.blocked "curl" ⟨.v4 16909060, 80⟩ .udp .protocolMismatch).1 hblocked).2⟩

end Gateway
end SocksGateway
