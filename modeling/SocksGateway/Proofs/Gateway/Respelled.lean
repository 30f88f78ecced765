import SocksGateway.Proofs.Gateway.Retold

namespace SocksGateway

open ProcessName (Variant)
open Answer (seen)

def Rule.Respelled (r r' : Rule) : Prop := ∃ name, Variant r.name name ∧ r' = { r with name }

theorem Rule.respelled_of_plain {r r' : Rule} (h : r.plain = r'.plain) : r.Respelled r' := by
  obtain ⟨name, proxy, excluded, allowed, denied⟩ := r
  obtain ⟨name', proxy', excluded', allowed', denied'⟩ := r'
  obtain ⟨hname, rfl, rfl, rfl, rfl⟩ := Rule.mk.inj h
  exact ⟨name', (ProcessName.variant_iff name name').2 hname, rfl⟩

inductive Origin.Respelled : Origin → Origin → Prop
  | options (o : GatewayOptions) : Respelled (.options o) (.options o)
  | config {c c' : Config} (h : c.Respelled c') : Respelled (.config c) (.config c')

theorem cases_of_mapError_eq {ε δ α : Type} {f : ε → δ} {x y : Except ε α}
    (h : x.mapError f = y.mapError f) :
    (∃ a, x = .ok a ∧ y = .ok a) ∨
      ∃ e e', x = .error e ∧ y = .error e' ∧ f e = f e' := by
  cases x with
  | ok a =>
    cases y with
    | ok b => exact .inl ⟨a, rfl, congrArg Except.ok (Except.ok.inj h).symm⟩
    | error e => cases h
  | error e =>
    cases y with
    | ok b => cases h
    | error e' => exact .inr ⟨e, e', rfl, rfl, Except.error.inj h⟩

theorem RuleSettings.Respelled.changes {s s' : RuleSettings} (h : s.Respelled s') :
    List.Forall₂ RuleChange.Respelled s.changes s'.changes := by
  obtain ⟨process, hprocess, rfl⟩ := h
  have hsame : ∀ (change : String → String → RuleChange) (ranges : List String),
      (∀ range, (change s.process range).Respelled (change process range)) →
      List.Forall₂ RuleChange.Respelled (ranges.map (change s.process))
        (ranges.map (change process)) := by
    intro change ranges hchange
    rw [List.forall₂_map_left_iff, List.forall₂_map_right_iff, List.forall₂_same]
    exact fun range _ => hchange range
  have hallowed := hsame .allow s.allowed fun _ => ⟨hprocess, rfl⟩
  have hdenied := hsame .deny s.denied fun _ => ⟨hprocess, rfl⟩
  exact List.rel_append hallowed hdenied

namespace Config

theorem respelled_proxySteps {proxies proxies' : List ProxySettings}
    (h : List.Forall₂ ProxySettings.Respelled proxies proxies') (n : Nat) :
    List.Forall₂ BuildStep.Respelled (proxySteps n proxies) (proxySteps n proxies') := by
  induction h generalizing n with
  | nil => exact .nil
  | @cons s s' _ _ hs _ ih =>
    have hassociate :
        List.Forall₂ BuildStep.Respelled
        (s.processes.map fun p => .change (.associate p ⟨n + 1⟩))
        (s'.processes.map fun p => .change (.associate p ⟨n + 1⟩)) := by
      obtain ⟨processes, hprocesses, rfl⟩ := hs
      exact List.rel_map (fun p q hpq => .change ⟨hpq, rfl⟩) hprocesses
    exact List.rel_append (.cons (.register hs) hassociate) (ih (n + 1))

variable {c c' : Config} (h : c.Respelled c')
include h

theorem Respelled.steps : List.Forall₂ BuildStep.Respelled c.steps c'.steps := by
  have hmirror : List.Forall₂ BuildStep.Respelled (c.logging.mirror.toList.map .mirror)
      (c'.logging.mirror.toList.map .mirror) := by
    rw [h.logging, List.forall₂_map_left_iff, List.forall₂_map_right_iff, List.forall₂_same]
    exact fun path _ => .mirror path
  have hexcludes :
      List.Forall₂ RuleChange.Respelled (c.excludes.map .exclude) (c'.excludes.map .exclude) :=
    List.rel_map (fun p q hpq => ⟨hpq, rfl⟩) h.excludes
  have hrules : List.Forall₂ RuleChange.Respelled (c.rules.flatMap RuleSettings.changes)
      (c'.rules.flatMap RuleSettings.changes) := List.rel_flatMap h.rules fun s s' hs => hs.changes
  have hchanges :
      List.Forall₂ BuildStep.Respelled (c.changes.map .change) (c'.changes.map .change) :=
    List.rel_map (fun _ _ hc => .change hc) (List.rel_append hexcludes hrules)
  exact List.rel_append hmirror (List.rel_append (respelled_proxySteps h.proxies 0) hchanges)

theorem Respelled.options_eq : c.options = c'.options := by
  rw [options, options, h.logging, h.bypassLan]

end Config

namespace Gateway

theorem namesake_takeAll {g g' : Gateway} (h : g.Namesake g') {steps steps' : List BuildStep}
    (hsteps : List.Forall₂ BuildStep.Respelled steps steps') :
    (g.takeAll steps).1.mapError GatewayError.plain =
      (g'.takeAll steps').1.mapError GatewayError.plain := by
  induction hsteps generalizing g g' with
  | nil => rfl
  | @cons s s' _ _ hs _ ih =>
    have hanswer := (take_respelled h hs).1
    have hrest : ((g.take s).2.takeAll _).1.mapError GatewayError.plain =
        ((g'.take s').2.takeAll _).1.mapError GatewayError.plain :=
          ih (namesake_meet h (.building hs))
    rw [takeAll, takeAll]
    generalize g.take s = result at hanswer hrest ⊢
    generalize g'.take s' = result' at hanswer hrest ⊢
    obtain ⟨answer, m⟩ := result
    obtain ⟨answer', m'⟩ := result'
    rcases cases_of_mapError_eq hanswer with ⟨u, rfl, rfl⟩ | ⟨error, error', rfl, rfl, -⟩
    · exact hrest
    · exact hanswer

end Gateway

namespace Origin

theorem Respelled.blank_eq {o o' : Origin} (h : o.Respelled o') (relay : Relay) (files : FileTree) :
    o.blank relay files = o'.blank relay files := by
  cases h with
  | options o => rfl
  | config hc => rw [blank, blank, hc.options_eq]

theorem Respelled.building {o o' : Origin} (h : o.Respelled o') :
    List.Forall₂ Occurrence.Respelled o.building o'.building := by
  cases h with
  | options o => exact .nil
  | config hc => exact List.rel_map (fun _ _ hs => .building hs) hc.steps

theorem namesake_blank (o : Origin) (relay : Relay) (files : FileTree) :
    (o.blank relay files).Namesake (o.blank relay files) := by
  have hrooted : (o.blank relay files).log.Rooted := by
    cases o <;> exact Pipeline.rooted_of_unmirrored rfl
  exact ⟨⟨rfl, rfl⟩, rfl, .refl _, hrooted, hrooted⟩

theorem Respelled.build {o o' : Origin} (h : o.Respelled o') (relay : Relay) (files : FileTree) :
    (∃ error error', o.build relay files = .error error ∧
      o'.build relay files = .error error' ∧
      error.plain = error'.plain) ∨
    ∃ g g', o.build relay files = .ok g ∧ o'.build relay files = .ok g' := by
  cases h with
  | options o => exact .inr ⟨_, _, rfl, rfl⟩
  | @config c c' hc =>
    show (∃ error error', Gateway.ofConfig c relay files = .error error ∧
        Gateway.ofConfig c' relay files = .error error' ∧ error.plain = error'.plain) ∨
      ∃ g g', Gateway.ofConfig c relay files = .ok g ∧ Gateway.ofConfig c' relay files = .ok g'
    rcases cases_of_mapError_eq hc.validate_eq with
      ⟨u, hv, hv'⟩ | ⟨fault, fault', hv, hv', hfault⟩
    · have hanswer :=
        Gateway.namesake_takeAll ((Origin.config c).namesake_blank relay files) hc.steps
      rw [Gateway.ofConfig_eq_finished hv, Gateway.ofConfig_eq_finished hv', ← hc.options_eq]
      change ((Gateway.create c.options relay files).takeAll c.steps).1.mapError
        GatewayError.plain =
        ((Gateway.create c.options relay files).takeAll c'.steps).1.mapError
          GatewayError.plain at hanswer
      generalize (Gateway.create c.options relay files).takeAll c.steps = result at hanswer ⊢
      generalize (Gateway.create c.options relay files).takeAll c'.steps = result' at hanswer ⊢
      obtain ⟨answer, m⟩ := result
      obtain ⟨answer', m'⟩ := result'
      rcases cases_of_mapError_eq hanswer with
        ⟨u, rfl, rfl⟩ | ⟨error, error', rfl, rfl, herror⟩
      · exact .inr ⟨m, m', rfl, rfl⟩
      · exact .inl ⟨error, error', rfl, rfl, herror⟩
    · left
      rw [Gateway.ofConfig, Gateway.ofConfig, hv, hv']
      exact ⟨_, _, rfl, rfl, congrArg GatewayError.invalidConfig hfault⟩

end Origin

namespace Gateway

/-- Two gateways after the same happened to both of them, but for the spelling of the processes. -/
structure SameButSpelling (g g' : Gateway) (xs ys : List Occurrence) : Prop where
  replies : (g.replies xs).map (seen Answer.unread) = (g'.replies ys).map (seen Answer.unread)
  rules : List.Forall₂ Rule.Respelled (g.lived xs).policy.rules (g'.lived ys).policy.rules
  lookups {p q : String} (h : Variant p q) :
    Option.Rel Rule.Respelled ((g.lived xs).policy.get? p) ((g'.lived ys).policy.get? q)
  decisions {p q : String} (h : Variant p q) (a : Address) (protocol : Protocol) :
    (g.lived xs).evaluate p a protocol = (g'.lived ys).evaluate q a protocol
  registry : (g.lived xs).registry = (g'.lived ys).registry
  calls : (g.lived xs).calls = (g'.lived ys).calls
  lan : (g.lived xs).lan = (g'.lived ys).lan
  stage : (g.lived xs).stage = (g'.lived ys).stage
  level : (g.lived xs).log.level = (g'.lived ys).log.level
  files : (g.lived xs).log.files.Alike (g'.lived ys).log.files
  words (h : ∀ s ∈ (g.lived xs).log.subscribers, s.IgnoresWords) :
    (g.replies xs).map (seen Answer.wordless) = (g'.replies ys).map (seen Answer.wordless) ∧
      (g.lived xs).log.wordless = (g'.lived ys).log.wordless ∧
        (g.lived xs).worker = (g'.lived ys).worker

theorem sameButSpelling {g g' : Gateway} (h : g.Namesake g') (hr : g.Retold g')
    {xs ys : List Occurrence} (hxs : List.Forall₂ Occurrence.Respelled xs ys) :
    SameButSpelling g g' xs ys := by
  obtain ⟨hlast, hreplies⟩ := namesake_lived h hxs
  have hrules : (g.lived xs).policy.rules.map Rule.plain =
      (g'.lived ys).policy.rules.map Rule.plain :=
    congrArg (·.policy.rules) hlast.engine
  refine ⟨hreplies, ?_, fun hpq => ?_,
    fun hpq a protocol => Engine.evaluate_respelled hlast.engine hpq a protocol,
    ?_, ?_, ?_, hlast.stage, hlast.level, hlast.files.files, fun hread => ?_⟩
  · rw [← List.forall₂_eq_eq_eq, List.forall₂_map_left_iff,
      List.forall₂_map_right_iff] at hrules
    exact hrules.imp fun _ _ => Rule.respelled_of_plain
  · have hget := Engine.get?_respelled hlast.engine hpq
    generalize (g.lived xs).policy.get? _ = rule at hget ⊢
    generalize (g'.lived ys).policy.get? _ = rule' at hget ⊢
    cases rule with
    | none =>
      cases rule' with
      | none => exact .none
      | some r' => cases hget
    | some r =>
      cases rule' with
      | none => cases hget
      | some r' => exact .some (Rule.respelled_of_plain (Option.some.inj hget))
  · exact congrArg (·.registry) hlast.engine
  · exact congrArg (·.calls) hlast.engine
  · exact congrArg (·.lan) hlast.engine
  · obtain ⟨hretold, hwords⟩ := retold_lived h hr hxs hread
    exact ⟨hwords, hretold.log.same, hretold.worker⟩

/-- Names that differ in the case of the letters A to Z and in the blanks around them are the same
wherever a gateway is given one. They have one key. A configuration in which processes are spelt in
another way is valid, or is refused for the same reason, and in the same process if two proxies
claim one. A gateway that is built from it, and to which the same happens but for the spelling of
processes, gives the same answers and makes the same decisions, and its rules are the same but for
the names in them. Its log differs in words only, unless a subscriber goes by the words. -/
theorem names_respelled :
    (∀ p q : String, Variant p q → ProcessName.key p = ProcessName.key q) ∧
    (∀ c c' : Config, c.Respelled c' →
      c.validate.mapError ConfigFault.plain = c'.validate.mapError ConfigFault.plain ∧
      (Config.firstConflict [] c.associations).map ProcessName.plain =
        (Config.firstConflict [] c'.associations).map ProcessName.plain) ∧
    ∀ o o' : Origin, o.Respelled o' → ∀ (relay : Relay) (files : FileTree),
      (∃ error error', o.build relay files = .error error ∧
        o'.build relay files = .error error' ∧
        error.plain = error'.plain) ∨
      ∃ g g', o.build relay files = .ok g ∧ o'.build relay files = .ok g' ∧
        ∀ xs ys : List Occurrence, List.Forall₂ Occurrence.Respelled xs ys →
          SameButSpelling g g' xs ys := by
  refine ⟨fun p q h => h.key_eq, fun c c' h => ⟨h.validate_eq, h.conflict_eq⟩,
    fun o o' ho relay files => ?_⟩
  rcases ho.build relay files with herror | ⟨g, g', hg, hg'⟩
  · exact .inl herror
  · have hblank := o.namesake_blank relay files
    have hnamesake := (namesake_lived hblank ho.building).1
    have hunread : ∀ s ∈ ((o.blank relay files).lived o.building).log.subscribers,
        s.IgnoresWords := by
      rw [← lived_of_build hg, subscribers_of_build hg]
      exact List.forall_mem_nil _
    have hretold : (o.blank relay files).Retold (o.blank relay files) := by
      refine ⟨⟨rfl, ?_⟩, rfl⟩
      have hlater := ((o.blank relay files).leads_lived o.building).subscribers_subset
      exact fun s hs => hunread s (hlater hs)
    have hbuilt := (retold_lived hblank hretold ho.building hunread).1
    have hleft : (o.blank relay files).lived o.building = g := (lived_of_build hg).symm
    have hright : (o.blank relay files).lived o'.building = g' := by
      rw [ho.blank_eq, ← lived_of_build hg']
    rw [hleft, hright] at hnamesake hbuilt
    exact .inr ⟨g, g', hg, hg', fun xs ys hxs => sameButSpelling hnamesake hbuilt hxs⟩

theorem names_respelled_of_sigma :
    let c : Config :=
      { excludes := ["\tSTRAßE"]
        proxies := [{ endpoint := "10.0.0.1:1080", processes := ["ΟΔΟΣ.EXE\u2003"] }]
        rules := [{ process := " pING", denied := ["10.0.0.0/8"] }] }
    let remote : Endpoint := ⟨.v4 0x08080808, 443⟩
    let ys : List Occurrence :=
      [.call (.decide "ΟΔΟΣ.Exe" remote .tcp), .call (.change (.dropDenied "PING" "8.0.0.0/8"))]
    ProcessName.key "ΟΔΟΣ.exe" = ProcessName.key "ΟΔΟΣ.EXE\u2003" ∧
      c.validate = .ok () ∧
    ∃ g, ofConfig c .accepting {} = .ok g ∧ (g.replies ys).map (seen Answer.unread) =
      [.ok (.decision (.proxy ⟨⟨1⟩, ⟨.v4 0x0a000001, 1080⟩, none⟩)),
        .error (.rangeNotFound "8.0.0.0/8" "ping")] := by
  intro c remote ys
  let c₀ : Config :=
    { excludes := ["Straße"]
      proxies := [{ endpoint := "10.0.0.1:1080", processes := ["ΟΔΟΣ.exe"] }]
      rules := [{ process := "Ping", denied := ["10.0.0.0/8"] }] }
  obtain ⟨hkeys, hconfigs, hgateways⟩ := names_respelled
  have hvariant : ∀ {p q : String}, ProcessName.plain p = ProcessName.plain q → Variant p q :=
    fun h => (ProcessName.variant_iff _ _).2 h
  have hsigma : Variant "ΟΔΟΣ.exe" "ΟΔΟΣ.EXE\u2003" := hvariant (by decide +kernel)
  have hc : c₀.Respelled c := by
    refine ⟨rfl, rfl, .cons (hvariant (by decide +kernel)) .nil,
      .cons ⟨_, .cons hsigma .nil, rfl⟩ .nil,
      .cons ⟨_, hvariant (by decide +kernel), rfl⟩ .nil⟩
  let xs : List Occurrence :=
    [.call (.decide "ΟΔΟΣ.exe" remote .tcp), .call (.change (.dropDenied "Ping" "8.0.0.0/8"))]
  have hxs : List.Forall₂ Occurrence.Respelled xs ys := by
    refine .cons (.call (.decide (hvariant (by decide +kernel)) remote .tcp))
      (.cons (.call (.change ⟨?_, rfl⟩)) .nil)
    exact hvariant (by decide +kernel)
  have hreplies :
      (ofConfig c₀ .accepting {}).map (fun g => (g.replies xs).map (seen Answer.unread)) =
      .ok [.ok (.decision (.proxy ⟨⟨1⟩, ⟨.v4 0x0a000001, 1080⟩, none⟩)),
        .error (.rangeNotFound "8.0.0.0/8" "ping")] := by
    decide +kernel
  have hvalid : c.validate.mapError ConfigFault.plain = .ok () := by
    rw [← (hconfigs c₀ c hc).1]
    decide +kernel
  refine ⟨hkeys _ _ hsigma, ?_, ?_⟩
  · cases hv : c.validate with
    | ok u => rfl
    | error fault => rw [hv] at hvalid; cases hvalid
  · rcases hgateways (.config c₀) (.config c) (.config hc) .accepting {} with
      ⟨error, error', hg, -⟩ | ⟨g₀, g, hg₀, hg, hsame⟩
    · change ofConfig c₀ .accepting {} = .error error at hg
      rw [hg] at hreplies
      cases hreplies
    · change ofConfig c₀ .accepting {} = .ok g₀ at hg₀
      rw [hg₀] at hreplies
      exact ⟨g, hg, (hsame xs ys hxs).replies.symm.trans (Except.ok.inj hreplies)⟩

end Gateway
end SocksGateway
