import SocksGateway.Proofs.Engine.Proxies
import SocksGateway.Proofs.Gateway.History
import SocksGateway.Proofs.Policy.Revision
import SocksGateway.Proofs.Secrecy.Masking

namespace SocksGateway

def Answer.masked : Answer → Answer
  | decision d => decision d.masked
  | answer => answer

def Operation.masked : Operation → Operation
  | addProxy endpoint protocols credentials up =>
    addProxy endpoint protocols (credentials.map Credentials.masked) up
  | op => op

def Step.masked : Step → Step
  | call op => call op.masked
  | logging change => logging change

def ProxySettings.masked (s : ProxySettings) : ProxySettings := { s with password := none }

def Config.masked (c : Config) : Config := { c with proxies := c.proxies.map ProxySettings.masked }

def Origin.masked : Origin → Origin
  | options o => options o
  | config c => config c.masked

namespace Engine

theorem relay_addProxy (e : Engine) (endpoint : String) (protocols : ProtocolMask)
    (credentials : Option Credentials) (start : Bool) :
    (e.addProxy endpoint protocols credentials start).2.relay = e.relay :=
  addProxy_keeps (P := fun x => x.relay = e.relay)
    (fun x endpoint protocols credentials autostart hx =>
      (x.relay_register endpoint protocols credentials autostart).trans hx)
    (fun x h hx => (x.relay_startProxy h).trans hx) rfl endpoint protocols credentials start

theorem relay_startEach (e : Engine) (hs : List Handle) : (e.startEach hs).2.relay = e.relay :=
  startEach_keeps (P := fun x => x.relay = e.relay)
    (fun x h hx => (x.relay_startProxy h).trans hx) rfl hs

theorem relay_stopAll (e : Engine) : e.stopAll.2.relay = e.relay :=
  stopAll_keeps (P := fun x => x.relay = e.relay) (fun _ _ hx => hx) rfl

theorem foldl_diagnose_masked {α : Type} (e : Engine) (severity : Severity) (text : α → String)
    (as : List α) :
    as.foldl (fun e a => e.diagnose severity (text a)) e.masked =
      (as.foldl (fun e a => e.diagnose severity (text a)) e).masked := by
  induction as generalizing e with
  | nil => rfl
  | cons a as ih => exact ih (e.diagnose severity (text a))

end Engine

namespace Gateway

def masked (g : Gateway) : Gateway := { g with toEngine := g.toEngine.masked }

theorem startText_masked (e : Engine) : startText e.masked = startText e := by
  have hs : e.masked.registry.size = e.registry.size := e.registry.size_masked
  unfold startText
  rw [hs]
  rfl

theorem bringUp_masked {e : Engine} (hr : e.relay.Blind) :
    bringUp e.masked = ((bringUp e).1, (bringUp e).2.masked) := by
  have hs := Engine.startPending_masked (e := e.diagnose .info (startText e)) hr
  have hd : e.masked.diagnose .info (startText e.masked) =
      (e.diagnose .info (startText e)).masked := by
    rw [startText_masked]
    rfl
  unfold bringUp
  simp only [hd, hs, Engine.foldl_diagnose_masked]
  rfl

theorem start_masked {g : Gateway} (hr : g.relay.Blind) :
    g.masked.start = (g.start.1, g.start.2.masked) := by
  have hs : g.masked.stage = g.stage := rfl
  have hb := bringUp_masked (e := { g.toEngine with log := (DrainWorker.spawn g.log).2 }) hr
  have hl : ({ g.masked.toEngine with log := (DrainWorker.spawn g.masked.log).2 } : Engine) =
    ({ g.toEngine with log := (DrainWorker.spawn g.log).2 } : Engine).masked := rfl
  unfold start
  rw [hs]
  split
  next => rfl
  next =>
    simp only [hl, hb]
    rfl

theorem tearDown_masked (e : Engine) : tearDown e.masked = (tearDown e).masked := by
  rw [tearDown, tearDown, e.stopAll_masked]
  rfl

theorem stop_masked (g : Gateway) : g.masked.stop = g.stop.masked := by
  have hs : g.masked.stage = g.stage := rfl
  have ht : tearDown g.masked.toEngine = (tearDown g.toEngine).masked := tearDown_masked g.toEngine
  unfold stop
  rw [hs, ht]
  split <;> rfl

theorem finish_masked (g : Gateway) : g.masked.finish = g.finish.masked := by
  rw [finish, finish, stop_masked]
  rfl

theorem flush_masked (g : Gateway) : g.masked.flush = g.flush.masked := by
  have hw : g.masked.worker = g.worker := rfl
  unfold flush
  rw [hw]
  cases g.worker <;> rfl

theorem answering_masked {α : Type} {f : α → Answer} (hf : ∀ a, (f a).masked = f a)
    (r : Except GatewayError α × Gateway) :
    answering f (r.1, r.2.masked) =
      ((answering f r).1.map Answer.masked, (answering f r).2.masked) := by
  obtain ⟨answer, g⟩ := r
  cases answer with
  | error error => rfl
  | ok a => exact congrArg (fun a => (Except.ok a, g.masked)) (hf a).symm

theorem perform_masked {g : Gateway} (hr : g.relay.Blind) (op : Operation) :
    g.masked.perform op.masked = ((g.perform op).1.map Answer.masked, (g.perform op).2.masked) := by
  cases op with
  | start =>
    show answering .failures g.masked.start = _
    rw [start_masked hr]
    exact answering_masked (fun errors => rfl) g.start
  | stop =>
    show doing g.masked.stop = _
    rw [stop_masked]
    rfl
  | addProxy endpoint protocols credentials up =>
    show answering .handle (g.masked.withEngine
        (g.toEngine.masked.addProxy endpoint protocols _ up)) = _
    rw [Engine.addProxy_masked hr]
    exact answering_masked (fun h => rfl)
      (g.withEngine (g.toEngine.addProxy endpoint protocols credentials up))
  | change c =>
    show answering (fun _ => .done) (g.masked.withEngine (g.toEngine.masked.change c)) = _
    rw [Engine.change_masked]
    exact answering_masked (fun u => rfl) (g.withEngine (g.toEngine.change c))
  | setLanBypass enabled => rfl
  | decide process destination protocol =>
    have hd : g.masked.toEngine.decide process destination protocol = _ :=
      g.toEngine.decide_masked process destination protocol
    simp only [Operation.masked, perform, withEngine, hd]
    rfl
  | report event payload => rfl
  | subscribe s => rfl
  | flush =>
    show doing g.masked.flush = _
    rw [flush_masked]
    rfl
  | readLog => rfl
  | setLogLevel level => rfl
  | setLogLimit limit => rfl
  | setLogInterval interval => rfl
  | setLogMirror path =>
    have hm : g.masked.log.mirrorTo path = g.log.mirrorTo path := rfl
    simp only [Operation.masked, perform, mirrorTo, hm]
    cases g.log.mirrorTo path <;> rfl

theorem relay_start (g : Gateway) : g.start.2.relay = g.relay := by
  unfold start
  split
  next => rfl
  next =>
    obtain ⟨log, log', h⟩ := bringUp_eq { g.toEngine with log := (DrainWorker.spawn g.log).2 }
    simp only [h]
    exact Engine.relay_startEach _ _

theorem relay_stop (g : Gateway) : g.stop.relay = g.relay := by
  unfold stop
  split
  next => exact g.toEngine.relay_stopAll
  next => rfl

theorem relay_perform (g : Gateway) (op : Operation) : (g.perform op).2.relay = g.relay := by
  cases op with
  | start => exact g.relay_start
  | stop => exact g.relay_stop
  | addProxy endpoint protocols credentials up =>
    exact g.toEngine.relay_addProxy endpoint protocols credentials up
  | change c =>
    obtain ⟨policy, log, h⟩ := g.toEngine.change_policy_log c
    show (g.toEngine.change c).2.relay = g.relay
    rw [h]
  | flush =>
    show g.flush.relay = g.relay
    unfold flush
    split <;> rfl
  | setLogMirror path =>
    simp only [perform, mirrorTo]
    cases g.log.mirrorTo path <;> rfl
  | _ => rfl

theorem relay_next (g : Gateway) (s : Step) : (g.next s).relay = g.relay := by
  cases s with
  | call op => exact g.relay_perform op
  | logging change => rfl

theorem next_masked {g : Gateway} (hr : g.relay.Blind) (s : Step) :
    g.masked.next s.masked = (g.next s).masked := by
  cases s with
  | call op => exact congrArg Prod.snd (perform_masked hr op)
  | logging change => rfl

theorem after_masked {g : Gateway} (hr : g.relay.Blind) (steps : List Step) :
    g.masked.after (steps.map Step.masked) = (g.after steps).masked := by
  induction steps generalizing g with
  | nil => rfl
  | cons s steps ih =>
    have hn : (g.next s).relay.Blind := by rw [relay_next]; exact hr
    refine Eq.trans ?_ (ih hn)
    show (g.masked.next s.masked).after _ = _
    rw [next_masked hr]

def answers (g : Gateway) (steps : List Step) : List (Except GatewayError Answer) :=
  (g.transcript steps).map (·.2)

theorem answers_masked {g : Gateway} (hr : g.relay.Blind) (steps : List Step) :
    g.masked.answers (steps.map Step.masked) = (g.answers steps).map (·.map Answer.masked) := by
  induction steps generalizing g with
  | nil => rfl
  | cons s steps ih =>
    have hn : (g.next s).relay.Blind := by rw [relay_next]; exact hr
    have hg := next_masked hr s
    cases s with
    | call op =>
      show (g.masked.perform op.masked).1 :: (g.masked.next (Step.call op).masked).answers _ = _
      rw [hg, ih hn, perform_masked hr]
      rfl
    | logging change => exact (congrArg (answers · _) hg).trans (ih hn)

end Gateway

theorem ProxySettings.credentials_masked (s : ProxySettings) :
    s.masked.credentials = s.credentials.map Credentials.masked := by
  show Credentials.ofParts? s.username none = (Credentials.ofParts? s.username s.password).map _
  cases s.username with
  | none => rfl
  | some user =>
    exact (apply_ite (Option.map Credentials.masked) (user = "") none
      (some ⟨user, s.password.getD ""⟩)).symm

namespace Config

theorem endpointFault_masked (c : Config) : c.masked.endpointFault = c.endpointFault := by
  rw [endpointFault, masked, List.find?_map, Option.map_map, endpointFault]
  rfl

theorem associations_masked (c : Config) : c.masked.associations = c.associations := by
  rw [associations, masked, List.zipIdx_map, List.flatMap_map, associations]
  rfl

theorem validate_masked (c : Config) : c.masked.validate = c.validate := by
  have hf : c.masked.fault = c.fault := by
    rw [fault, endpointFault_masked, associationFault, associations_masked]
    rfl
  rw [validate, hf, validate]

end Config

namespace Engine

theorem foldlM_masked {α : Type} {f : Engine → α → Except GatewayError Engine} {m : α → α}
    (hf : ∀ e a, (f e a).map masked = f e.masked (m a)) (as : List α) (e : Engine) :
    (as.foldlM f e).map masked = (as.map m).foldlM f e.masked := by
  induction as generalizing e with
  | nil => rfl
  | cons a as ih =>
    rw [List.foldlM_cons, List.map_cons, List.foldlM_cons, ← hf]
    exact map_bind fun m _ => ih m

theorem unlessFailed_masked {α : Type} (r : Except GatewayError α × Engine) :
    (unlessFailed r).map (fun a => (a.1, a.2.masked)) = unlessFailed (r.1, r.2.masked) := by
  obtain ⟨answer, e⟩ := r
  cases answer <;> rfl

theorem applyChange_masked (e : Engine) (c : RuleChange) :
    (e.applyChange c).map masked = e.masked.applyChange c := by
  rw [applyChange, applyChange, change_masked, ← unlessFailed_masked]
  cases unlessFailed (e.change c) <;> rfl

theorem foldlM_applyChange_masked (cs : List RuleChange) (e : Engine) :
    (cs.foldlM applyChange e).map masked = cs.foldlM applyChange e.masked := by
  have h := foldlM_masked (m := id) applyChange_masked cs e
  rwa [List.map_id] at h

theorem applyProxy_masked (e : Engine) (s : ProxySettings) :
    (e.applyProxy s).map masked = e.masked.applyProxy s.masked := by
  unfold applyProxy
  rw [s.credentials_masked, register_masked, ← unlessFailed_masked]
  exact map_bind fun r _ => foldlM_applyChange_masked _ r.2

theorem applyRule_masked (e : Engine) (s : RuleSettings) :
    (e.applyRule s).map masked = e.masked.applyRule (id s) := foldlM_applyChange_masked _ e

theorem applyConfig_masked (e : Engine) (c : Config) :
    (e.applyConfig c).map masked = e.masked.applyConfig c.masked := by
  unfold applyConfig
  rw [Config.masked, ← foldlM_masked applyProxy_masked]
  refine map_bind fun m _ => ?_
  rw [← foldlM_applyChange_masked]
  refine map_bind fun m _ => ?_
  have h := foldlM_masked applyRule_masked c.rules m
  rwa [List.map_id] at h

end Engine

namespace Gateway

theorem ofConfig_masked (c : Config) (relay : Relay) (files : FileTree) :
    (ofConfig c relay files).map masked = ofConfig c.masked relay files := by
  unfold ofConfig
  rw [c.validate_masked]
  cases c.validate with
  | error fault => rfl
  | ok u =>
    have ho : c.masked.options = c.options := rfl
    have hp : c.masked.logging = c.logging := rfl
    simp only [ho, hp]
    cases hm : (create c.options relay files).mirrored c.logging.mirror with
    | error error => rfl
    | ok m =>
      obtain ⟨log, rfl⟩ := mirrored_eq_ok hm
      have h : (Engine.applyConfig _ c).map Engine.masked =
          ((create c.options relay files).withLog log).toEngine.applyConfig c.masked :=
        Engine.applyConfig_masked ((create c.options relay files).withLog log).toEngine c
      simp only [bind, Except.bind, pure, Except.pure]
      rw [← h]
      generalize Engine.applyConfig _ c = result
      cases result <;> rfl

end Gateway

theorem Origin.build_masked (o : Origin) (relay : Relay) (files : FileTree) :
    (o.build relay files).map Gateway.masked = o.masked.build relay files := by
  cases o with
  | options o => rfl
  | config c => exact Gateway.ofConfig_masked c relay files

theorem Origin.relay_build {o : Origin} {relay : Relay} {files : FileTree} {g : Gateway}
    (h : o.build relay files = .ok g) : g.relay = relay := by
  cases o with
  | options o => cases h; rfl
  | config c =>
    obtain ⟨-, m, e, hm, he, rfl⟩ := Gateway.ofConfig_eq_ok h
    obtain ⟨log, rfl⟩ := Gateway.mirrored_eq_ok hm
    refine Engine.applyConfig_keeps (P := fun e => e.relay = relay) ?_ ?_ rfl he
    · intro e endpoint protocols credentials autostart hr
      rw [e.relay_register, hr]
    · intro e c hr
      obtain ⟨policy, log, h⟩ := e.change_policy_log c
      rw [h, hr]

/-- The texts of an answer. -/
def answerTexts : Except GatewayError Answer → List String
  | .error e => [e.message]
  | .ok (.failures errors) => errors.map (·.message)
  | .ok (.decision d) => [d.toText]
  | .ok (.entries entries) => entries.map (·.toText)
  | .ok _ => []

theorem answerTexts_masked (answer : Except GatewayError Answer) :
    answerTexts (answer.map Answer.masked) = answerTexts answer := by
  cases answer with
  | error e => rfl
  | ok answer =>
    cases answer with
    | decision d => exact congrArg ([·]) d.toText_masked
    | _ => rfl

/-- What a gateway shows without being asked for credentials: its log, with all that waits in it,
was delivered, mirrored or remarked, the calls that its relay had, and its descriptions. -/
structure Surface where
  log : Pipeline
  calls : Array RelayCall
  gateway : String
  registry : String
  proxies : List String
  credentials : List String

namespace Gateway

def surface (g : Gateway) : Surface where
  log := g.log
  calls := g.calls
  gateway := g.description
  registry := g.registry.description
  proxies := g.registry.proxies.map (·.description)
  credentials := g.registry.proxies.map fun p => Credentials.optionDescription p.credentials

theorem description_masked (g : Gateway) : g.masked.description = g.description := by
  have h : g.masked.registry.description = g.registry.description := g.registry.description_masked
  unfold description
  rw [h]
  rfl

theorem surface_masked (g : Gateway) : g.masked.surface = g.surface := by
  have hp : g.masked.registry.proxies.map (·.description) =
      g.registry.proxies.map (·.description) :=
    List.map_map.trans (List.map_congr_left fun p _ => p.description_masked)
  have hc : g.masked.registry.proxies.map (fun p => Credentials.optionDescription p.credentials) =
      g.registry.proxies.map fun p => Credentials.optionDescription p.credentials :=
    List.map_map.trans (List.map_congr_left fun p _ =>
      Credentials.optionDescription_masked p.credentials)
  have hr : g.masked.registry.description = g.registry.description := g.registry.description_masked
  rw [surface, surface, g.description_masked, hr, hp, hc]
  rfl

/-- Two histories that are alike but for passwords, by the same clock, leave gateways that are alike
but for passwords. All answers are the same but for the passwords in the credentials of a decision,
with the same texts, and both gateways show the same, to the end. -/
theorem passwords_never_show {relay : Relay} (hr : relay.Blind) (files : FileTree)
    {o₁ o₂ : Origin} {steps₁ steps₂ : List Step} (ho : o₁.masked = o₂.masked)
    (hs : steps₁.map Step.masked = steps₂.map Step.masked) :
    (o₁.build relay files).map masked = (o₂.build relay files).map masked ∧
    ∀ g₁ g₂, o₁.build relay files = .ok g₁ → o₂.build relay files = .ok g₂ →
      (g₁.answers steps₁).map (·.map Answer.masked) =
        (g₂.answers steps₂).map (·.map Answer.masked) ∧
      (g₁.answers steps₁).map answerTexts = (g₂.answers steps₂).map answerTexts ∧
      (g₁.after steps₁).masked = (g₂.after steps₂).masked ∧
      (g₁.after steps₁).surface = (g₂.after steps₂).surface ∧
      (g₁.after steps₁).finish.surface = (g₂.after steps₂).finish.surface ∧
      ∀ h, ((g₁.after steps₁).registry.get? h).map Proxy.masked =
        ((g₂.after steps₂).registry.get? h).map Proxy.masked := by
  have hbuild : (o₁.build relay files).map masked = (o₂.build relay files).map masked := by
    rw [o₁.build_masked, o₂.build_masked, ho]
  refine ⟨hbuild, fun g₁ g₂ h₁ h₂ => ?_⟩
  rw [h₁, h₂] at hbuild
  have hg : g₁.masked = g₂.masked := Except.ok.inj hbuild
  have hr₁ : g₁.relay.Blind := by rw [Origin.relay_build h₁]; exact hr
  have hr₂ : g₂.relay.Blind := by rw [Origin.relay_build h₂]; exact hr
  have hanswers : (g₁.answers steps₁).map (·.map Answer.masked) =
      (g₂.answers steps₂).map (·.map Answer.masked) := by
    rw [← answers_masked hr₁, ← answers_masked hr₂, hg, hs]
  have hafter : (g₁.after steps₁).masked = (g₂.after steps₂).masked := by
    rw [← after_masked hr₁, ← after_masked hr₂, hg, hs]
  refine ⟨hanswers, ?_, hafter, ?_, ?_, fun h => ?_⟩
  · have h := congrArg (List.map answerTexts) hanswers
    simpa only [List.map_map, Function.comp_def, answerTexts_masked] using h
  · rw [← surface_masked, hafter, surface_masked]
  · rw [← surface_masked, ← finish_masked, hafter, finish_masked, surface_masked]
  · rw [← Registry.get?_masked, ← Registry.get?_masked]
    exact congrArg (fun g : Gateway => g.registry.get? h) hafter

theorem passwords_never_show_though_kept :
    let add (password : String) : Step :=
      .call (.addProxy "127.0.0.1:1080" .both (some ⟨"user", password⟩) true)
    let g₁ := (create {} .accepting {}).after [add "sesame", .call .stop]
    let g₂ := (create {} .accepting {}).after [add "mellon", .call .stop]
    g₁.surface = g₂.surface ∧
      (g₁.registry.get? ⟨1⟩).bind (·.credentials) = some ⟨"user", "sesame"⟩ ∧
      (g₂.registry.get? ⟨1⟩).bind (·.credentials) = some ⟨"user", "mellon"⟩ := by
  intro add g₁ g₂
  have h := (@passwords_never_show .accepting (fun _ _ => rfl) {} (.options {}) (.options {})
    [add "sesame", .call .stop] [add "mellon", .call .stop] rfl rfl).2 _ _ rfl rfl
  obtain ⟨-, -, -, hsurface, -⟩ := h
  exact ⟨hsurface, by decide +kernel, by decide +kernel⟩

end Gateway
end SocksGateway
