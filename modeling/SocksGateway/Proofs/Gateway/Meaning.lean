import Mathlib
import SocksGateway.Proofs.Config.Rearranged
import SocksGateway.Proofs.Gateway.Applied
import SocksGateway.Proofs.Proxy.Lookup
import SocksGateway.Proofs.Routing.RangeEffect

namespace SocksGateway

/-- A proxy is as its settings say, and does not run. -/
structure ProxySettings.Registered (s : ProxySettings) (h : Handle) (p : Proxy) : Prop where
  handle : p.handle = h
  endpoint : Endpoint.ofProxyText? s.endpoint = some p.endpoint
  credentials : ∀ username password, p.credentials = some ⟨username, password⟩ ↔
    s.username = some username ∧ username ≠ "" ∧ s.password.getD "" = password
  protocols : p.protocols = s.protocols
  state : p.state = .stopped
  autostart : p.autostart = s.start

theorem ProxySettings.credentials_eq_some_iff (s : ProxySettings) (username password : String) :
    s.credentials = some ⟨username, password⟩ ↔
      s.username = some username ∧ username ≠ "" ∧ s.password.getD "" = password := by
  unfold credentials Credentials.ofParts?
  cases s.username with
  | none => simp
  | some user =>
    by_cases hu : user = ""
    · simp only [if_pos hu, Option.some_inj]
      exact iff_of_false nofun fun h => h.2.1 (h.1 ▸ hu)
    · simp only [if_neg hu, Option.some_inj, Credentials.mk.injEq]
      constructor
      · rintro ⟨rfl, hp⟩
        exact ⟨rfl, hu, hp⟩
      · rintro ⟨hn, -, hp⟩
        exact ⟨hn, hp⟩

theorem Config.registered_of_entered {s : ProxySettings} {h : Handle} {p : Proxy}
    (he : entered s h = some p) :
    s.Registered h p := by
  obtain ⟨address, ha, rfl⟩ := Option.map_eq_some_iff.1 he
  exact ⟨rfl, ha, s.credentials_eq_some_iff, rfl, rfl, rfl⟩

theorem Config.getElem?_enteredFrom (n : Nat) (proxies : List ProxySettings) (i : Nat) :
    (enteredFrom n proxies)[i]? = proxies[i]?.map fun s => entered s ⟨n + i + 1⟩ := by
  simp [enteredFrom, List.getElem?_zipIdx, Function.comp_def]

namespace Gateway

/-- The proxies and the rules are as a configuration has them, and there are no others. -/
structure Means (g : Gateway) (c : Config) : Prop where
  length : g.registry.proxies.length = c.proxies.length
  proxies : ∀ (i : Nat) s p, c.proxies[i]? = some s → g.registry.proxies[i]? = some p →
    s.Registered ⟨i + 1⟩ p
  rules : ∀ name, (g.policy.get? name).isSome = true ↔ c.Mentions (ProcessName.key name)
  meant : ∀ name r, g.policy.get? name = some r → c.Meant (ProcessName.key name) r

section
variable {c : Config} {g : Gateway}

theorem means_of_edits (h : c.Valid)
    (hproxies : g.registry.proxies.map some = Config.enteredFrom 0 c.proxies)
    (hpolicy : g.policy = c.edits.foldl PolicyTable.edit .empty) : g.Means c := by
  have hget : ∀ name, g.policy.get? name = Rule.made (c.editsTo (ProcessName.key name)) := by
    intro name
    rw [hpolicy, PolicyTable.get?_edits]
    rfl
  refine ⟨?_, fun i s p hs hp => ?_, fun name => ?_, fun name r hr => ?_⟩
  · have hlength := congrArg List.length hproxies
    simpa [Config.enteredFrom] using hlength
  · have hi : (g.registry.proxies.map some)[i]? = (Config.enteredFrom 0 c.proxies)[i]? := by
      rw [hproxies]
    rw [Config.getElem?_enteredFrom, List.getElem?_map, hs, hp] at hi
    have hentered : Config.entered s ⟨i + 1⟩ = some p := by simpa using hi.symm
    exact Config.registered_of_entered hentered
  · rw [hget, Option.isSome_iff_ne_none, Ne, Rule.made_eq_none_iff, ← Config.exists_edit_iff]
    simp [Config.editsTo]
  · exact h.meant_of_made ((hget name).symm.trans hr)

theorem exists_of_valid {files : FileTree} (h : c.Valid)
    (hopen : ∀ path, c.logging.mirror = some path →
      ∃ opened, files.openAppend path = .ok opened)
    (relay : Relay) :
    ∃ g, ofConfig c relay files = .ok g ∧ g.Means c ∧
      g.registry.proxies.map some = Config.enteredFrom 0 c.proxies ∧
        g.lan = ⟨c.bypassLan⟩ := by
  obtain ⟨log, registry, hsteps, hregistry⟩ := takeAll_steps h hopen relay
  have hof := ofConfig_eq_finished ((Config.validate_eq_ok_iff c).2 h) relay files
  rw [finished_eq_ok_iff.2 hsteps] at hof
  exact ⟨_, hof, means_of_edits h hregistry rfl, hregistry, rfl⟩

theorem decide_of_rearranged {c' : Config} {g' : Gateway} (h : c.Rearranged c') (hg : g.Means c)
    (hg' : g'.Means c') (hregistry : g'.registry = g.registry) (hlan : g'.lan = g.lan)
    (process : String) (destination : Endpoint) (protocol : Protocol) :
    (g'.toEngine.decide process destination protocol).1 =
      (g.toEngine.decide process destination protocol).1 := by
  have hsome : (g'.policy.get? process).isSome = true ↔
      (g.policy.get? process).isSome = true := by
    rw [hg.rules, hg'.rules, h.mentions]
  show g'.toEngine.evaluate _ _ _ = g.toEngine.evaluate _ _ _
  simp only [Engine.evaluate, hregistry, hlan]
  cases hr : g.policy.get? process with
  | none =>
    cases hr' : g'.policy.get? process with
    | none => rfl
    | some r' => simp [hr, hr'] at hsome
  | some r =>
    cases hr' : g'.policy.get? process with
    | none => simp [hr, hr'] at hsome
    | some r' =>
      have hm := hg.meant process r hr
      have hm' := hg'.meant process r' hr'
      simp only [Rule.decide_congr (h.admits_eq hm hm' _) (h.proxy_eq hm hm')]

end

/-- The order in which a configuration names processes, tables and ranges leaves no trace in what is
decided. -/
theorem built_as_meant (c : Config) (relay : Relay) (files : FileTree) (hv : c.validate = .ok ())
    (hopen : ∀ path, c.logging.mirror = some path →
      ∃ opened, files.openAppend path = .ok opened) :
    ∃ g, ofConfig c relay files = .ok g ∧ g.Means c ∧
      ∀ c', c.Rearranged c' → ∃ g', ofConfig c' relay files = .ok g' ∧
        ∀ process destination protocol, (g'.toEngine.decide process destination protocol).1 =
          (g.toEngine.decide process destination protocol).1 := by
  have hvalid : c.Valid := (Config.validate_eq_ok_iff c).1 hv
  obtain ⟨g, hg, hmeans, hproxies, hlan⟩ := exists_of_valid hvalid hopen relay
  refine ⟨g, hg, hmeans, fun c' h => ?_⟩
  have hopen' : ∀ path, c'.logging.mirror = some path →
      ∃ opened, files.openAppend path = .ok opened := by
    rw [h.logging]
    exact hopen
  obtain ⟨g', hg', hmeans', hproxies', hlan'⟩ := exists_of_valid (h.valid hvalid) hopen' relay
  have hsame : g'.registry.proxies.map some = g.registry.proxies.map some := by
    rw [hproxies, hproxies', h.enteredFrom_eq]
  have hregistry : g'.registry = g.registry :=
    Registry.ext (List.map_injective_iff.2 (fun _ _ => Option.some.inj) hsame)
  have hfilter : g'.lan = g.lan := by rw [hlan, hlan', h.bypassLan]
  exact ⟨g', hg', decide_of_rearranged h hmeans hmeans' hregistry hfilter⟩

theorem built_as_meant_with_mirror :
    let c : Config := {
      logging := { mirror := some "log" }, excludes := ["wget", "Wget "],
      proxies := [{ endpoint := "127.0.0.1:1080", processes := ["curl", " CURL"] }],
      rules :=
        [⟨"Curl", ["10.0.0.0/8", "10.1.2.3/8", "fd00::/8"], []⟩,
        ⟨"curl", [], ["10.1.0.0/16"]⟩] }
    let c' : Config := {
      logging := { mirror := some "log" }, excludes := ["Wget ", "wget"],
      proxies := [{ endpoint := "127.0.0.1:1080", processes := [" CURL", "curl"] }],
      rules :=
        [⟨"curl", [], ["10.1.0.0/16"]⟩,
        ⟨"Curl", ["10.1.2.3/8", "10.0.0.0/8", "fd00::/8"], []⟩] }
    c.validate = .ok () ∧ c.Rearranged c' ∧
      ∃ g g', ofConfig c .accepting {} = .ok g ∧ g.Means c ∧
        ofConfig c' .accepting {} = .ok g' ∧
        ∀ process destination protocol, (g'.toEngine.decide process destination protocol).1 =
          (g.toEngine.decide process destination protocol).1 := by
  intro c c'
  have hv : c.validate = .ok () := by decide +kernel
  have hopen : ∀ path, c.logging.mirror = some path →
      ∃ opened, ({} : FileTree).openAppend path = .ok opened := by
    intro path hpath
    cases hpath
    exact ⟨(["log"], ⟨[(["log"], .file #[])]⟩), by cbv⟩
  have h : c.Rearranged c' :=
    { bypassLan := rfl
      logging := rfl
      excludes := .swap _ _ _
      proxies := .cons ⟨_, .swap _ _ _, rfl⟩ .nil
      rules :=
        ⟨_, .swap _ _ _, .cons ⟨rfl, .refl _, .refl _⟩
        (.cons ⟨rfl, .swap _ _ _, .refl _⟩ .nil)⟩ }
  obtain ⟨g, hg, hmeans, hrearranged⟩ := built_as_meant c .accepting {} hv hopen
  obtain ⟨g', hg', hsame⟩ := hrearranged c' h
  exact ⟨hv, h, g, g', hg, hmeans, hg', hsame⟩

end Gateway
end SocksGateway
