import SocksGateway.Proofs.Config.Meaning
import SocksGateway.Proofs.Gateway.Construction

namespace SocksGateway

namespace RuleChange

/-- A change that no rule makes impossible. -/
def Sound (known : Handle → Bool) : RuleChange → Prop
  | associate _ h => known h = true
  | exclude _ => True
  | allow _ range => ∃ n, Network.ofRangeText? range = some n
  | deny _ range => ∃ n, Network.ofRangeText? range = some n
  | dropAllowed _ _ => False
  | dropDenied _ _ => False

theorem revise_of_sound {known : Handle → Bool} {c : RuleChange} (h : c.Sound known) (r : Rule) :
    c.revise known r = .ok (r.edit c) := by
  have hok : ∃ s, c.revise known r = .ok s := by
    cases c with
    | associate p k => exact ⟨_, if_pos h⟩
    | exclude p => exact ⟨_, rfl⟩
    | allow p range =>
      obtain ⟨n, hn⟩ := h
      exact ⟨_, byRange_of_text hn _⟩
    | deny p range =>
      obtain ⟨n, hn⟩ := h
      exact ⟨_, byRange_of_text hn _⟩
    | dropAllowed p range => cases h
    | dropDenied p range => cases h
  obtain ⟨s, hs⟩ := hok
  rw [hs, Rule.edit_of_revise hs]

end RuleChange

theorem Engine.change_of_sound {e : Engine} {c : RuleChange} (h : c.Sound e.registry.contains) :
    ∃ log, e.change c = (.ok (), { e with policy := e.policy.edit c, log }) := by
  obtain ⟨text, hc⟩ :=
    change_of_revised_ok (RuleChange.revise_of_sound h (e.policy.ruleFor c.process))
  exact ⟨_, hc⟩

namespace Config

theorem Valid.sound {c : Config} (h : c.Valid) (known : Handle → Bool) {x : RuleChange}
    (hx : x ∈ c.changes) :
    x.Sound known := by
  rw [changes, List.mem_append] at hx
  rcases hx with hx | hx
  · obtain ⟨p, -, rfl⟩ := List.mem_map.1 hx
    trivial
  · obtain ⟨r, hr, hx⟩ := List.mem_flatMap.1 hx
    obtain ⟨side, range, hrange, rfl⟩ := RuleSettings.mem_changes.1 hx
    have hread := h.ranges r hr range (RuleSettings.mem_ranges_of_texts hrange)
    cases side <;> exact hread

end Config

namespace Gateway

theorem takeAll_append_of_ok {g g' : Gateway} {as : List BuildStep}
    (h : g.takeAll as = (.ok (), g')) (bs : List BuildStep) :
    g.takeAll (as ++ bs) = g'.takeAll bs := by
  induction as generalizing g with
  | nil => cases h; rfl
  | cons s as ih =>
    rw [takeAll] at h
    rw [List.cons_append, takeAll]
    generalize g.take s = result at h
    obtain ⟨answer, m⟩ := result
    cases answer with
    | ok => exact ih h
    | error error => cases h

theorem takeAll_changes {g : Gateway} {cs : List RuleChange}
    (h : ∀ c ∈ cs, c.Sound g.registry.contains) :
    ∃ log, g.takeAll (cs.map .change) =
      (.ok (), g.within { g.toEngine with policy := cs.foldl PolicyTable.edit g.policy, log }) := by
  induction cs generalizing g with
  | nil => exact ⟨g.log, rfl⟩
  | cons c cs ih =>
    obtain ⟨hc, hcs⟩ := List.forall_mem_cons.1 h
    obtain ⟨log, hchange⟩ := Engine.change_of_sound hc
    obtain ⟨log', hrest⟩ :=
      ih (g := g.within { g.toEngine with policy := g.policy.edit c, log }) hcs
    refine ⟨log', ?_⟩
    have htake : g.take (.change c) =
        (.ok (), g.within { g.toEngine with policy := g.policy.edit c, log }) := by
      rw [take, hchange]
      rfl
    rw [List.map_cons, takeAll, htake]
    exact hrest

theorem takeAll_proxy {g : Gateway} {s : ProxySettings} {address : Endpoint}
    (ha : Endpoint.ofProxyText? s.endpoint = some address) :
    ∃ log, g.takeAll (s.steps g.registry.nextHandle) = (.ok (), g.within { g.toEngine with
      registry := g.registry.insert address s.credentials s.protocols s.start
      policy :=
        (s.processes.map (RuleChange.associate · g.registry.nextHandle)).foldl
        PolicyTable.edit g.policy
      log }) := by
  obtain ⟨log, hr⟩ := g.toEngine.register_of_some s.protocols s.credentials ha s.start
  let named : Registry := g.registry.insert address s.credentials s.protocols s.start
  have htake : g.take (.register s) =
      (.ok (), g.within { g.toEngine with registry := named, log }) := by
    simp only [take]
    rw [hr]
    rfl
  have hknown : named.contains g.registry.nextHandle = true := by
    rw [Registry.contains, Registry.get?_insert, if_pos rfl]
    rfl
  have hsound : ∀ c ∈ s.processes.map (RuleChange.associate · g.registry.nextHandle),
      c.Sound named.contains := by
    intro c hc
    obtain ⟨p, -, rfl⟩ := List.mem_map.1 hc
    exact hknown
  obtain ⟨log', hassigned⟩ :=
    takeAll_changes (g := g.within { g.toEngine with registry := named, log }) hsound
  refine ⟨log', ?_⟩
  rw [ProxySettings.steps, takeAll, htake]
  rw [List.map_map] at hassigned
  exact hassigned

theorem takeAll_proxies {g : Gateway} {n : Nat} {proxies : List ProxySettings}
    (hn : g.registry.size = n)
    (h : ∀ s ∈ proxies, ∃ address, Endpoint.ofProxyText? s.endpoint = some address) :
    ∃ log registry, g.takeAll (Config.proxySteps n proxies) = (.ok (), g.within { g.toEngine with
        registry, policy :=
          (Config.assignedFrom n proxies).foldl PolicyTable.edit g.policy, log }) ∧
      registry.proxies.map some = g.registry.proxies.map some ++ Config.enteredFrom n proxies := by
  induction proxies generalizing g n with
  | nil => exact ⟨g.log, g.registry, rfl, (List.append_nil _).symm⟩
  | cons s proxies ih =>
    subst hn
    obtain ⟨⟨address, ha⟩, hproxies⟩ := List.forall_mem_cons.1 h
    obtain ⟨log, hfirst⟩ := takeAll_proxy (g := g) ha
    let named : Registry := g.registry.insert address s.credentials s.protocols s.start
    let policy :=
      (s.processes.map (RuleChange.associate · g.registry.nextHandle)).foldl
      PolicyTable.edit g.policy
    have hsize : named.size = g.registry.size + 1 := g.registry.size_insert _ _ _ _
    obtain ⟨log', registry, hrest, hregistry⟩ :=
      ih (g := g.within { g.toEngine with registry := named, policy, log }) hsize hproxies
    refine ⟨log', registry, ?_, ?_⟩
    · refine (takeAll_append_of_ok hfirst _).trans ?_
      rw [Config.assignedFrom_cons, List.foldl_append]
      exact hrest
    · have hnamed : named.proxies.map some =
          g.registry.proxies.map some ++ [Config.entered s g.registry.nextHandle] := by
        rw [Config.entered, ha]
        exact List.map_append
      rw [hregistry, Config.enteredFrom_cons]
      show named.proxies.map some ++ _ = _
      rw [hnamed, List.append_assoc]
      rfl

theorem takeAll_config {g : Gateway} {c : Config} (hsize : g.registry.size = 0) (h : c.Valid) :
    ∃ log registry, g.takeAll (Config.proxySteps 0 c.proxies ++ c.changes.map .change) =
        (.ok (), g.within { g.toEngine with
          registry, policy := c.edits.foldl PolicyTable.edit g.policy, log }) ∧
      registry.proxies.map some = Config.enteredFrom 0 c.proxies := by
  obtain ⟨log, registry, hproxies, hregistry⟩ := takeAll_proxies hsize h.endpoints
  obtain ⟨log', hchanges⟩ := takeAll_changes (g := g.within { g.toEngine with
    registry, policy := (Config.assignedFrom 0 c.proxies).foldl PolicyTable.edit g.policy, log })
      fun _ => h.sound _
  refine ⟨log', registry, ?_, ?_⟩
  · rw [takeAll_append_of_ok hproxies, Config.edits, List.foldl_append]
    exact hchanges
  · rw [hregistry, List.eq_nil_of_length_eq_zero hsize]
    rfl

theorem take_mirror_of_error {g : Gateway} {path : String} {error : FileError}
    (h : g.log.files.openAppend path = .error error) :
    g.take (.mirror path) = (.error (.file error), g) := by
  have hlog : g.log.mirrorTo path = .error error := by
    rw [Pipeline.mirrorTo, Mirror.openFile, h]
    rfl
  have hmirror : g.mirrorTo path = .error (.file error) := by rw [mirrorTo, hlog]
  rw [take, hmirror]

theorem take_mirror_of_opened {g : Gateway} {path : String} {opened : FileKey × FileTree}
    (h : g.log.files.openAppend path = .ok opened) :
    ∃ log, g.take (.mirror path) = (.ok (), g.withLog log) := by
  have hlog : ∃ log, g.log.mirrorTo path = .ok log := by
    rw [Pipeline.mirrorTo, Mirror.openFile, h]
    exact ⟨_, rfl⟩
  obtain ⟨log, hlog⟩ := hlog
  have hmirror : g.mirrorTo path = .ok (g.withLog log) := by rw [mirrorTo, hlog]
  exact ⟨log, by rw [take, hmirror]⟩

theorem takeAll_steps {c : Config} {files : FileTree} (h : c.Valid)
    (hopen : ∀ path, c.logging.mirror = some path →
      ∃ opened, files.openAppend path = .ok opened)
    (relay : Relay) :
    ∃ log registry, (create c.options relay files).takeAll c.steps =
        (.ok (), (create c.options relay files).within
          { (create c.options relay files).toEngine with
          registry, policy := c.edits.foldl PolicyTable.edit .empty, log }) ∧
      registry.proxies.map some = Config.enteredFrom 0 c.proxies := by
  rw [Config.steps]
  cases hmirror : c.logging.mirror with
  | none => exact takeAll_config rfl h
  | some path =>
    obtain ⟨opened, hopened⟩ := hopen path hmirror
    obtain ⟨log, htake⟩ := take_mirror_of_opened (g := create c.options relay files) hopened
    have hfirst : (create c.options relay files).takeAll ((some path).toList.map .mirror) =
        (.ok (), (create c.options relay files).withLog log) := by
      show takeAll _ [.mirror path] = _
      rw [takeAll, htake]
      rfl
    rw [takeAll_append_of_ok hfirst]
    exact takeAll_config (g := (create c.options relay files).withLog log) rfl h

theorem calls_stage_take (g : Gateway) (s : BuildStep) :
    (g.take s).2.calls = g.calls ∧ (g.take s).2.stage = g.stage := by
  cases s with
  | mirror path =>
    rw [take, mirrorTo]
    cases g.log.mirrorTo path <;> exact ⟨rfl, rfl⟩
  | register s =>
    refine ⟨?_, rfl⟩
    show (g.toEngine.register s.endpoint s.protocols s.credentials s.start).2.calls = g.calls
    cases ha : Endpoint.ofProxyText? s.endpoint with
    | none => rw [g.toEngine.register_of_none s.protocols s.credentials ha]
    | some address =>
      obtain ⟨log, hr⟩ := g.toEngine.register_of_some s.protocols s.credentials ha s.start
      rw [hr]
  | change c => exact ⟨g.toEngine.calls_change c, rfl⟩

theorem calls_stage_takeAll (g : Gateway) (steps : List BuildStep) :
    (g.takeAll steps).2.calls = g.calls ∧ (g.takeAll steps).2.stage = g.stage := by
  induction steps generalizing g with
  | nil => exact ⟨rfl, rfl⟩
  | cons s steps ih =>
    have hs := g.calls_stage_take s
    rw [takeAll]
    generalize g.take s = result at hs
    obtain ⟨answer, m⟩ := result
    cases answer with
    | ok => exact ⟨(ih m).1.trans hs.1, (ih m).2.trans hs.2⟩
    | error error => exact hs

/-- Validation is what decides: without it nothing is done, and after it only a mirror that cannot
be opened is in the way. The relay is never called, not even when what was built is let go of. -/
theorem built_iff_valid (c : Config) (relay : Relay) (files : FileTree) :
    (∀ g, ofConfig c relay files = .ok g ↔ attempt c relay files = (.ok (), some g)) ∧
    (∀ error, ofConfig c relay files = .error error ↔
      (attempt c relay files).1 = .error error) ∧
    (∀ fault, c.validate = .error fault →
      attempt c relay files = (.error (.invalidConfig fault), none)) ∧
    (c.validate = .ok () →
      (∀ path error, c.logging.mirror = some path → files.openAppend path = .error error →
        attempt c relay files = (.error (.file error), some (create c.options relay files))) ∧
      ((∀ path, c.logging.mirror = some path →
        ∃ opened, files.openAppend path = .ok opened) →
        ∃ g, attempt c relay files = (.ok (), some g))) ∧
    ∀ g, (attempt c relay files).2 = some g → g.calls = #[] ∧ g.finish.calls = #[] := by
  cases hv : c.validate with
  | error fault =>
    have hattempt : attempt c relay files = (.error (.invalidConfig fault), none) := by
      rw [attempt, hv]
    have hof : ofConfig c relay files = .error (.invalidConfig fault) := by rw [ofConfig, hv]
    rw [hattempt, hof]
    refine ⟨fun g => iff_of_false (by simp) (by simp), fun error => ?_, fun fault' h => ?_,
      fun h => absurd h (by simp), fun g hg => ?_⟩
    · rw [Except.error.injEq, Except.error.injEq]
    · cases h
      rfl
    · cases hg
  | ok =>
    have hattempt : attempt c relay files = (((create c.options relay files).takeAll c.steps).1,
        some ((create c.options relay files).takeAll c.steps).2) := by rw [attempt, hv]
    rw [hattempt, ofConfig_eq_finished hv]
    refine ⟨fun g => ?_, fun error => finished_eq_error_iff, fun fault h => absurd h (by simp),
      fun _ => ⟨?_, fun hopen => ?_⟩, fun g hg => ?_⟩
    · rw [finished_eq_ok_iff, Prod.ext_iff, Prod.ext_iff, Option.some_inj]
    · intro path error hpath herror
      have hfail : (create c.options relay files).takeAll c.steps =
          (.error (.file error), create c.options relay files) := by
        rw [Config.steps, hpath]
        show takeAll _ (.mirror path :: _) = _
        rw [takeAll, take_mirror_of_error (g := create c.options relay files) herror]
      rw [hfail]
    · obtain ⟨log, registry, hsteps, -⟩ :=
        takeAll_steps ((Config.validate_eq_ok_iff c).1 hv) hopen relay
      rw [hsteps]
      exact ⟨_, rfl⟩
    · obtain ⟨hcalls, hstage⟩ := (create c.options relay files).calls_stage_takeAll c.steps
      have hcreated : ((create c.options relay files).takeAll c.steps).2.stage = .created := hstage
      obtain rfl := Option.some.inj hg
      refine ⟨hcalls, ?_⟩
      rw [finish, stop_of_ne (by simp [hcreated])]
      exact hcalls

end Gateway
end SocksGateway
