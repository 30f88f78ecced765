import SocksGateway.CommandLine.Outcome
import SocksGateway.Proofs.Routing.Configured
import SocksGateway.Proofs.Routing.Grounded

namespace SocksGateway

namespace Origin

def lan : Origin → Bool
  | options o => o.bypassLan
  | config c => c.bypassLan

def calls : Origin → List RoutingCall
  | options _ => []
  | config c => c.calls

end Origin

def Engine.fresh (lan : Bool) : Engine := { lan := ⟨lan⟩ }

theorem Engine.grounded_fresh (lan : Bool) : (fresh lan).Grounded := by
  intro process r h hr
  cases hr

namespace Gateway

theorem ofConfig_idle {c : Config} {relay : Relay} {files : FileTree} {m : Gateway}
    (hv : c.validate = .ok ())
    (hm : (create c.options relay files).mirrored c.logging.mirror = .ok m) :
    (ofConfig c relay files).map (·.idle) =
      c.calls.foldlM Engine.commit (Engine.fresh c.bypassLan) := by
  obtain ⟨log, rfl⟩ := mirrored_eq_ok hm
  unfold ofConfig
  rw [hv, hm]
  have h :=
    Engine.applyConfig_idle (e := ((create c.options relay files).withLog log).toEngine) c rfl
  refine Eq.trans ?_ h
  simp only [bind, Except.bind, pure, Except.pure]
  generalize Engine.applyConfig _ c = result
  cases result <;> rfl

end Gateway

theorem Origin.idle_build {o : Origin} {relay : Relay} {files : FileTree} {g : Gateway}
    (h : o.build relay files = .ok g) : g.idle = (Engine.fresh o.lan).served o.calls := by
  cases o with
  | options o => cases h; rfl
  | config c =>
    have hb : Gateway.ofConfig c relay files = .ok g := h
    obtain ⟨hv, m, e, hm, -⟩ := Gateway.ofConfig_eq_ok hb
    have hi := Gateway.ofConfig_idle hv hm
    rw [hb] at hi
    exact Engine.served_of_foldlM_commit hi.symm

namespace Gateway

/-- A configuration that made a gateway makes one again, wherever its mirror can be opened. -/
theorem ofConfig_again {c : Config} {relay relay' : Relay} {files files' : FileTree} {g m : Gateway}
    (hg : ofConfig c relay files = .ok g)
    (hm : (create c.options relay' files').mirrored c.logging.mirror = .ok m) :
    ∃ k, ofConfig c relay' files' = .ok k ∧ k.idle = g.idle := by
  obtain ⟨hv, m', e, hm', -⟩ := ofConfig_eq_ok hg
  have h := (ofConfig_idle hv hm).trans (ofConfig_idle hv hm').symm
  rw [hg] at h
  cases hk : ofConfig c relay' files' with
  | ok k =>
    rw [hk] at h
    exact ⟨k, rfl, Except.ok.inj h⟩
  | error error =>
    rw [hk] at h
    cases h

theorem perform_check {c : Config} {files : FileTree} {env : Environment}
    {i : CommandLine.Invocation} {process : String} {destination : Endpoint} {protocol : Protocol}
    {g : Gateway} (hload : Config.load files env i.config = .ok c)
    (hi : i.command = .check process destination protocol)
    (hg : ofConfig c .accepting files = .ok g) :
    ∃ files', CommandLine.perform files env i =
      .printed ((g.toEngine.decide process destination protocol).1.toText ++ "\n") files' := by
  unfold CommandLine.perform
  simp only [hload, hg, hi]
  exact ⟨_, rfl⟩

theorem decide_after {g : Gateway} (hg : g.idle.Grounded) {steps : List Step}
    (hc : ∀ c, .call (.change c) ∉ steps)
    (hl : ∀ enabled, .call (.setLanBypass enabled) ∉ steps) (process : String)
    (destination : Endpoint) (protocol : Protocol) :
    ((g.after steps).toEngine.decide process destination protocol).1 =
      (g.idle.decide process destination protocol).1 := by
  rw [← Engine.decide_idle, idle_after]
  exact hg.evaluate_served (neutral_of_mem_routing hc hl) process _ protocol

/-- Two gateways whose building meant the same to routing give the same answers to the same routing
calls, and where the mirror of a configuration can be opened, checking the configuration prints the
decision of any gateway built from it. -/
theorem routing_independent :
    (∀ (o₁ o₂ : Origin) (relay₁ relay₂ : Relay)
      (files₁ files₂ : FileTree) (g₁ g₂ : Gateway)
      (steps₁ steps₂ : List Step),
      o₁.build relay₁ files₁ = .ok g₁ → o₂.build relay₂ files₂ = .ok g₂ →
      o₁.lan = o₂.lan → o₁.calls = o₂.calls →
      steps₁.filterMap Step.routing? = steps₂.filterMap Step.routing? →
      g₁.routingAnswers steps₁ = g₂.routingAnswers steps₂) ∧
    ∀ (c : Config) (files : FileTree) (env : Environment)
      (i : CommandLine.Invocation) (process : String)
      (destination : Endpoint) (protocol : Protocol) (relay : Relay)
        (files' : FileTree) (g : Gateway)
      (steps : List Step),
      Config.load files env i.config = .ok c → i.command = .check process destination protocol →
      ofConfig c relay files' = .ok g →
      (∀ change, .call (.change change) ∉ steps) →
        (∀ enabled, .call (.setLanBypass enabled) ∉ steps) →
      let line := ((g.after steps).toEngine.decide process destination protocol).1.toText ++ "\n"
      (∃ files'', CommandLine.perform files env i = .printed line files'') ∨
        ∃ error, (create c.options .accepting files).mirrored c.logging.mirror = .error error ∧
          CommandLine.perform files env i = .failed (.gateway error) := by
  constructor
  · intro o₁ o₂ relay₁ relay₂ files₁ files₂ g₁ g₂ steps₁ steps₂ h₁
      h₂ hlan hcalls hsteps
    rw [routingAnswers_eq_serveAll, routingAnswers_eq_serveAll, hsteps, Origin.idle_build h₁,
      Origin.idle_build h₂, hlan, hcalls]
  · intro c files env i process destination protocol relay files' g steps hload hi hg hc hl line
    obtain ⟨hv, -⟩ := ofConfig_eq_ok hg
    cases hm : (create c.options .accepting files).mirrored c.logging.mirror with
    | error error =>
      refine .inr ⟨error, rfl, ?_⟩
      unfold CommandLine.perform ofConfig
      simp only [hload, hv, hm]
      rfl
    | ok m =>
      obtain ⟨k, hk, hki⟩ := ofConfig_again hg hm
      have hground : g.idle.Grounded := by
        rw [Origin.idle_build (o := .config c) hg]
        exact (Engine.grounded_fresh _).served _
      obtain ⟨files'', hp⟩ := perform_check hload hi hk
      refine .inl ⟨files'', hp.trans ?_⟩
      simp only [line]
      rw [decide_after hground hc hl, ← hki, Engine.decide_idle]

theorem routing_independent_of_relay :
    let settings (start : Bool) : ProxySettings :=
      { endpoint := "127.0.0.1:1080", processes := ["curl"], start }
    let quiet : Origin := .config { logging := { level := .error }, proxies := [settings false] }
    let eager : Origin := .config { proxies := [settings true] }
    let refusing : Relay := ⟨fun _ _ => some ⟨["refused"]⟩⟩
    let ask : Step := .call (.decide "curl" ⟨.v4 16909060, 80⟩ .tcp)
    (∃ g₁ g₂, quiet.build .accepting {} = .ok g₁ ∧ eager.build refusing {} = .ok g₂ ∧
      g₁.routingAnswers [ask] = g₂.routingAnswers [.call .start, ask, .call .stop]) ∧
    let env : Environment := { configFile := some "" }
    let check : CommandLine.Invocation :=
      ⟨none, false, .check "curl" ⟨.v4 16909060, 80⟩ .tcp⟩
    ∃ files'', CommandLine.perform {} env check = .printed "bypass\n" files'' := by
  intro settings quiet eager refusing ask
  constructor
  · have hq : (quiet.build .accepting {}).isOk = true := by decide +kernel
    have he : (eager.build refusing {}).isOk = true := by decide +kernel
    cases h₁ : quiet.build .accepting {} with
    | error error => rw [h₁] at hq; cases hq
    | ok g₁ =>
      cases h₂ : eager.build refusing {} with
      | error error => rw [h₂] at he; cases he
      | ok g₂ =>
        exact ⟨g₁, g₂, rfl, rfl,
          routing_independent.1 quiet eager .accepting refusing {} {} g₁ g₂ _ _ h₁ h₂
          rfl rfl rfl⟩
  · intro env check
    have hload : Config.load {} env check.config = .ok {} := by
      simp [env, check, Config.load, Environment.configPath, FileTree.exists?, FileTree.resolve,
        FileTree.names?, bind, Except.bind]
    rcases routing_independent.2 {} {} env check "curl" ⟨.v4 16909060, 80⟩ .tcp .accepting {}
      (create {} .accepting {}) [.call .start] hload rfl rfl (by simp) (by simp)
        with h | ⟨error, h, -⟩
    · exact h
    · cases h

end Gateway
end SocksGateway
