import SocksGateway.Proofs.Gateway.Akin

namespace SocksGateway

namespace Origin

def atLevel (level : Level) : Origin → Origin
  | options o => .options { o with level }
  | config c => .config { c with logging := { c.logging with level } }

variable (o : Origin) (relay : Relay) (files : FileTree) (level level' : Level)

theorem building_atLevel : (o.atLevel level).building = o.building := by
  cases o <;> rfl

theorem level_blank : ((o.atLevel level).blank relay files).log.level = level := by
  cases o <;> rfl

theorem akin_blank :
    ((o.atLevel level).blank relay files).Akin ((o.atLevel level').blank relay files) := by
  cases o with
  | options o =>
    exact ⟨rfl, rfl, .refl files, Pipeline.rooted_of_unmirrored rfl,
      Pipeline.rooted_of_unmirrored rfl⟩
  | config c =>
    exact ⟨rfl, rfl, .refl files, Pipeline.rooted_of_unmirrored rfl,
      Pipeline.rooted_of_unmirrored rfl⟩

theorem build_atLevel :
    (∃ error, (o.atLevel level).build relay files = .error error ∧
      (o.atLevel level').build relay files = .error error) ∨
    ∃ g g', (o.atLevel level).build relay files = .ok g ∧
      (o.atLevel level').build relay files = .ok g' := by
  cases o with
  | options o => exact .inr ⟨_, _, rfl, rfl⟩
  | config c =>
    let low : Config := { c with logging := { c.logging with level } }
    let high : Config := { c with logging := { c.logging with level := level' } }
    show (∃ error, Gateway.ofConfig low relay files = .error error ∧
        Gateway.ofConfig high relay files = .error error) ∨
      ∃ g g', Gateway.ofConfig low relay files = .ok g ∧
        Gateway.ofConfig high relay files = .ok g'
    have hvalid : low.validate = high.validate := rfl
    cases hv : high.validate with
    | error fault =>
      left
      rw [Gateway.ofConfig, Gateway.ofConfig, hvalid, hv]
      exact ⟨_, rfl, rfl⟩
    | ok u =>
      have hanswer :=
        (Gateway.akin_takeAll ((config c).akin_blank relay files level level') c.steps).1
      rw [Gateway.ofConfig_eq_finished (hvalid.trans hv), Gateway.ofConfig_eq_finished hv]
      change ((Gateway.create low.options relay files).takeAll low.steps).1 =
        ((Gateway.create high.options relay files).takeAll high.steps).1 at hanswer
      generalize (Gateway.create low.options relay files).takeAll low.steps = result at hanswer ⊢
      generalize (Gateway.create high.options relay files).takeAll high.steps =
        result' at hanswer ⊢
      obtain ⟨answer, m⟩ := result
      obtain ⟨answer', m'⟩ := result'
      obtain rfl : answer = answer' := hanswer
      cases answer with
      | error error => exact .inl ⟨error, rfl, rfl⟩
      | ok u => exact .inr ⟨m, m', rfl, rfl⟩

end Origin

/-- An entry without its time. -/
def Entry.content (e : Entry) : EventKind × Payload := (e.event, e.payload)

namespace Pipeline

theorem content_along {p : Pipeline} {steps : List LogStep}
    (hs : ∀ s ∈ steps, s.level? = none) :
    (along accepted p steps).map Entry.content =
      ((offers steps).filter (p.level.allows ·.level)).map fun o => (o.event, o.payload) := by
  rw [← map_snd_along_graded, ← offered_along hs, List.map_map, List.map_map]
  rfl

/-- What a log that accepts everything accepts at the levels that a threshold admits. -/
theorem content_along_of_all {p : Pipeline} (hp : p.level = .all) {steps : List LogStep}
    (hs : ∀ s ∈ steps, s.level? = none) (t : Level) :
    ((along graded p steps).filter fun x => x.1.number ≤ t.number).map (fun x => x.2.content) =
      ((offers steps).filter (t.allows ·.level)).map fun o => (o.event, o.payload) := by
  have hall : (along graded p steps).map (fun x => x.2.offeredAt x.1) = offers steps := by
    rw [offered_along hs, hp]
    simp
  rw [← hall, List.filter_map, List.map_map]
  rfl

end Pipeline

namespace Gateway

/-- A gateway at a level beside the same gateway at the level at which everything is accepted. -/
structure Filtered (t : Level) (low high : Gateway) (xs ys : List Occurrence) : Prop where
  led : low.log.Leads (low.chronicle xs) (low.lived xs).log
  led' : high.log.Leads (high.chronicle ys) (high.lived ys).log
  level : (low.lived xs).log.level = t
  level' : (high.lived ys).log.level = .all
  graded : (Pipeline.along Pipeline.graded high.log (high.chronicle ys)).map (·.2) =
    Pipeline.along Pipeline.accepted high.log (high.chronicle ys)
  accepted : (Pipeline.along Pipeline.accepted low.log (low.chronicle xs)).map Entry.content =
    ((Pipeline.along Pipeline.graded high.log (high.chronicle ys)).filter fun x =>
      x.1.number ≤ t.number).map
      fun x => x.2.content
  replies : (low.replies xs).map (Except.map Answer.silent) =
    (high.replies ys).map (Except.map Answer.silent)
  calls : (low.lived xs).calls = (high.lived ys).calls
  registry : (low.lived xs).registry = (high.lived ys).registry
  policy : (low.lived xs).policy = (high.lived ys).policy
  lan : (low.lived xs).lan = (high.lived ys).lan
  stage : (low.lived xs).stage = (high.lived ys).stage

theorem filtered_of_akin {t : Level} {low high : Gateway} (h : low.Akin high)
    (hlow : low.log.level = t) (hhigh : high.log.level = .all) {xs ys : List Occurrence}
    (hxs : ∀ x ∈ xs, x.Plain) (hys : ∀ y ∈ ys, y.Plain)
    (hsame : xs.filter (fun x => !x.ofLog) = ys.filter fun y => !y.ofLog) :
    Filtered t low high xs ys := by
  obtain ⟨hlived, hanswers, hoffers⟩ := akin_lived h hxs
  obtain ⟨hlived', hanswers', hoffers'⟩ := akin_lived (h.symm.trans h) hys
  rw [hsame] at hlived hanswers hoffers
  have hakin := hlived.trans hlived'.symm
  have hlevel := low.keepsLevel_chronicle hxs
  have hlevel' := high.keepsLevel_chronicle hys
  have hled := low.leads_lived xs
  have hled' := high.leads_lived ys
  refine ⟨hled, hled', ?_, ?_, Pipeline.map_snd_along_graded _ _, ?_,
    hanswers.trans hanswers'.symm, ?_, ?_, ?_, ?_,
    hakin.stage⟩
  · exact ((congrArg (·.level) hled).trans (Pipeline.level_after hlevel)).trans hlow
  · exact ((congrArg (·.level) hled').trans (Pipeline.level_after hlevel')).trans hhigh
  · rw [Pipeline.content_along hlevel, Pipeline.content_along_of_all hhigh hlevel',
      hoffers, hoffers', hlow]
  · exact Engine.eq_of_muted (f := (·.calls)) (fun _ => rfl) hakin.engine
  · exact Engine.eq_of_muted (f := (·.registry)) (fun _ => rfl) hakin.engine
  · exact Engine.eq_of_muted (f := (·.policy)) (fun _ => rfl) hakin.engine
  · exact Engine.eq_of_muted (f := (·.lan)) (fun _ => rfl) hakin.engine

/-- A decision is noted in one entry, or not at all. -/
structure Notes (g : Gateway) (process : String) (destination : Endpoint) (protocol : Protocol)
    (d : Decision) (g' : Gateway) (text : String) : Prop where
  performed : g.perform (.decide process destination protocol) = (.ok (.decision d), g')
  below (h : g.log.level.number < Level.debug.number) : g'.log = g.log.diagnose .debug text ∧
    Pipeline.along Pipeline.accepted g.log (g.logSteps (.decide process destination protocol)) = []
  above (h : Level.debug.number ≤ g.log.level.number) :
    g'.log = (g.log.diagnose .debug text).accept (g.log.entry .message (.description text)) ∧
    Pipeline.along Pipeline.accepted g.log (g.logSteps (.decide process destination protocol)) =
      [g.log.entry .message (.description text)]

theorem notes_decide (g : Gateway) (process : String) (destination : Endpoint)
    (protocol : Protocol) :
    let d := g.evaluate process destination.address.canonical protocol
    g.Notes process destination protocol d (g.perform (.decide process destination protocol)).2
      (Engine.decisionText process destination protocol d) := by
  intro d
  let text := Engine.decisionText process destination protocol d
  let p := g.log.diagnose .debug text
  have hlog : (g.perform (.decide process destination protocol)).2.log =
      (p.append .debug .message (.description text)).2 :=
    congrArg (·.log) (Engine.note_eq (g.toEngine.diagnose .debug text) text)
  have haccepted :
      Pipeline.along Pipeline.accepted g.log (g.logSteps (.decide process destination protocol)) =
      g.log.arrival (g.log.append .debug .message (.description text)).1
        .message (.description text) :=
    List.append_nil _
  refine ⟨rfl, fun h => ?_, fun h => ?_⟩
  · have hdenied : g.log.level.allows .debug = false := decide_eq_false (by omega)
    rw [hlog, haccepted, Pipeline.append_of_not_allowed (p := p) hdenied,
      Pipeline.append_of_not_allowed hdenied]
    exact ⟨rfl, rfl⟩
  · have hallowed : g.log.level.allows .debug = true := decide_eq_true h
    rw [hlog, haccepted, Pipeline.append_of_allowed (p := p) hallowed,
      Pipeline.append_of_allowed hallowed]
    exact ⟨rfl, rfl⟩

/-- The level of a gateway filters what comes into its log, and does nothing else. A gateway is
built at any level, or fails, as it is at the level at which everything is accepted. From the same
calls the log accepts what it would accept at that level, in the same order, less what was offered
at a less severe level than its own. Every decision, error and handle that is answered, every call
of the relay, and the proxies, rules and stage afterwards are the same. A decision is noted in one
entry wherever the level admits it, and otherwise not at all. -/
theorem level_filters :
    (∀ (o : Origin) (relay : Relay) (files : FileTree) (t : Level),
      (∀ error, (o.atLevel t).build relay files = .error error ↔
        (o.atLevel .all).build relay files = .error error) ∧
      ∀ low high, (o.atLevel t).build relay files = .ok low →
        (o.atLevel .all).build relay files = .ok high →
        ∀ xs ys : List Occurrence, (∀ x ∈ xs, x.Plain) → (∀ y ∈ ys, y.Plain) →
          xs.filter (fun x => !x.ofLog) = ys.filter (fun y => !y.ofLog) →
          low.lived xs = ((o.atLevel t).blank relay files).lived (o.building ++ xs) ∧
          high.lived ys = ((o.atLevel .all).blank relay files).lived (o.building ++ ys) ∧
          Filtered t ((o.atLevel t).blank relay files)
            ((o.atLevel .all).blank relay files) (o.building ++ xs)
            (o.building ++ ys)) ∧
    ∀ (g : Gateway) (process : String) (destination : Endpoint) (protocol : Protocol), ∃ d g',
      g.Notes process destination protocol d g'
        (process ++ " " ++ protocol.name ++ " " ++ destination.toText ++ " -> " ++ d.toText) := by
  refine ⟨fun o relay files t =>
    ⟨fun error => ?_, fun low high hlow hhigh xs ys hxs hys hsame => ?_⟩,
    fun g process destination protocol => ⟨_, _, g.notes_decide process destination protocol⟩⟩
  · rcases o.build_atLevel relay files t .all with
      ⟨error', hlow, hhigh⟩ | ⟨low, high, hlow, hhigh⟩
    · rw [hlow, hhigh]
    · rw [hlow, hhigh]
      exact iff_of_false nofun nofun
  · have hlived : ∀ {level : Level} {g : Gateway},
        (o.atLevel level).build relay files = .ok g →
        ∀ xs, g.lived xs = ((o.atLevel level).blank relay files).lived (o.building ++ xs) := by
      intro level g hg xs
      rw [lived_append, ← o.building_atLevel level, ← lived_of_build hg]
    have hplain : ∀ {xs : List Occurrence}, (∀ x ∈ xs, x.Plain) →
        ∀ x ∈ o.building ++ xs, x.Plain := by
      intro xs hxs
      refine List.forall_mem_append.2 ⟨fun x hx => ?_, hxs⟩
      cases o with
      | options o => cases hx
      | config c =>
        obtain ⟨s, -, rfl⟩ := List.mem_map.1 hx
        trivial
    refine ⟨hlived hlow xs, hlived hhigh ys, ?_⟩
    refine filtered_of_akin (o.akin_blank relay files t .all) (o.level_blank relay files t)
      (o.level_blank relay files .all) (hplain hxs) (hplain hys) ?_
    rw [List.filter_append, List.filter_append, hsame]

theorem level_filters_warnings :
    let o : Origin := .options {}
    let remote : Endpoint := ⟨.v4 0x08080808, 443⟩
    let xs : List Occurrence :=
      [.call .start, .call (.decide "a" remote .tcp), .call (.report .ndisError (.data 7))]
    let ys : List Occurrence := .call .start :: .log .take none :: xs.tail
    let low := (o.atLevel .warning).blank .accepting {}
    let high := (o.atLevel .all).blank .accepting {}
    (Pipeline.along Pipeline.accepted high.log (high.chronicle ys)).map Entry.content =
      [(.message, .description "Gateway started (0 proxy start failures)"),
        (.message, .description "a tcp 8.8.8.8:443 -> bypass"), (.ndisError, .data 7)] ∧
    (Pipeline.along Pipeline.accepted low.log (low.chronicle xs)).map Entry.content =
      [(.ndisError, .data 7)] := by
  intro o remote xs ys low high
  obtain ⟨hfilter, -⟩ := level_filters
  obtain ⟨-, hruns⟩ := hfilter o .accepting {} .warning
  have hxs : ∀ x ∈ xs, x.Plain := by simp [xs, Occurrence.Plain]
  have htaken : (Occurrence.log .take none).Plain := ⟨⟨trivial, rfl⟩, rfl⟩
  have hys : ∀ y ∈ ys, y.Plain := by
    obtain ⟨hstart, hrest⟩ := List.forall_mem_cons.1 hxs
    exact List.forall_mem_cons.2 ⟨hstart, List.forall_mem_cons.2 ⟨htaken, hrest⟩⟩
  obtain ⟨-, -, hfiltered⟩ := hruns low high rfl rfl xs ys hxs hys rfl
  have hgraded : Pipeline.along Pipeline.graded high.log (high.chronicle ys) =
      [(.info, ⟨0, .message, .description "Gateway started (0 proxy start failures)"⟩),
        (.debug, ⟨0, .message, .description "a tcp 8.8.8.8:443 -> bypass"⟩),
          (.error, ⟨0, .ndisError, .data 7⟩)] := by
    decide +kernel
  have hhigh : (Pipeline.along Pipeline.graded high.log (high.chronicle ys)).map (·.2) =
    Pipeline.along Pipeline.accepted high.log (high.chronicle ys) := hfiltered.graded
  have hlow : (Pipeline.along Pipeline.accepted low.log (low.chronicle xs)).map Entry.content =
    ((Pipeline.along Pipeline.graded high.log (high.chronicle ys)).filter fun x => x.1.number ≤
      Level.warning.number).map
      fun x => x.2.content := hfiltered.accepted
  rw [← hhigh, hlow, hgraded]
  exact ⟨rfl, rfl⟩

end Gateway
end SocksGateway
