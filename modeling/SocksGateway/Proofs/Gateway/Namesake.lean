import SocksGateway.Proofs.Config.Respelled
import SocksGateway.Proofs.Engine.Respelled
import SocksGateway.Proofs.Gateway.Akin

/-!
Gateways that differ in how the processes of their rules are spelt, and in their logs. Whatever
happens to both, with the processes spelt by variants of their names in one of them, is answered
alike and leaves such gateways.
-/
namespace SocksGateway

open ProcessName (Variant)

inductive BuildStep.Respelled : BuildStep → BuildStep → Prop
  | mirror (path : String) : Respelled (.mirror path) (.mirror path)
  | register {s s' : ProxySettings} (h : s.Respelled s') : Respelled (.register s) (.register s')
  | change {c c' : RuleChange} (h : c.Respelled c') : Respelled (.change c) (.change c')

def Operation.process? : Operation → Option String
  | change c => some c.process
  | decide process _ _ => some process
  | _ => none

inductive Operation.Respelled : Operation → Operation → Prop
  | nameless {op : Operation} (h : op.process? = none) : Respelled op op
  | change {c c' : RuleChange} (h : c.Respelled c') : Respelled (.change c) (.change c')
  | decide {p q : String} (h : Variant p q) (destination : Endpoint) (protocol : Protocol) :
    Respelled (.decide p destination protocol) (.decide q destination protocol)

/-- Whoever else is at work on the log does the same in both, and opens files by their paths
only. -/
inductive Occurrence.Respelled : Occurrence → Occurrence → Prop
  | building {s s' : BuildStep} (h : s.Respelled s') : Respelled (.building s) (.building s')
  | call {op op' : Operation} (h : op.Respelled op') : Respelled (.call op) (.call op')
  | log {s : LogStep} (worker : Option DrainWorker)
      (h : ∀ m, s = .setMirror (some m) → m.sink.key? = none) :
    Respelled (.log s worker) (.log s worker)

namespace Answer

def unread : Answer → Answer
  | entries _ => entries []
  | answer => answer

def wordless : Answer → Answer
  | entries es => entries (es.map Entry.wordless)
  | answer => answer

/-- A reply as it is with every name written plainly, through a view of the answers. -/
def seen (view : Answer → Answer) (reply : Except GatewayError Answer) :
    Except GatewayError Answer :=
  (reply.map view).mapError GatewayError.plain

end Answer

open Answer (seen)

namespace Pipeline

theorem SameFiles.perform_mirrorTo {p q : Pipeline} (h : p.SameFiles q) (path : String) :
    (p.perform (.mirrorTo path)).SameFiles (q.perform (.mirrorTo path)) := by
  rcases h.mirrorTo path with ⟨error, hp, hq⟩ | ⟨p', q', hp, hq, hopened⟩
  · simp only [perform, hp, hq]
    exact h
  · simp only [perform, hp, hq]
    exact hopened

theorem accepted_append (p : Pipeline) (level : Level) (event : EventKind) (payload : Payload) :
    (p.append level event payload).1 = p.level.allows level := by
  unfold append
  split
  next h => exact h.symm
  next h => exact (eq_false_of_ne_true h).symm

end Pipeline

namespace Occurrence

def opens? : Occurrence → Option String
  | building (.mirror path) => some path
  | call (.setLogMirror path) => some path
  | log (.mirrorTo path) _ => some path
  | _ => none

/-- Nobody puts a mirror of a file in place that was opened somewhere else. -/
def OpensByPath : Occurrence → Prop
  | log s _ => ∀ m, s = .setMirror (some m) → m.sink.key? = none
  | _ => True

theorem Respelled.settings {x x' : Occurrence} (h : x.Respelled x') :
    x.opens? = x'.opens? ∧ x.level? = x'.level? ∧ x.OpensByPath ∧ x'.OpensByPath := by
  cases h with
  | building h => cases h <;> exact ⟨rfl, rfl, trivial, trivial⟩
  | call h => cases h <;> exact ⟨rfl, rfl, trivial, trivial⟩
  | log worker h => exact ⟨rfl, rfl, h, h⟩

end Occurrence

namespace Gateway

theorem level_meet (g : Gateway) (x : Occurrence) :
    (g.meet x).log.level = x.level?.getD g.log.level := by
  cases hx : x.level? with
  | none =>
    exact (congrArg (·.level) (g.leads_meet x)).trans
      (Pipeline.level_after (g.keepsLevel_stepsOf hx))
  | some level =>
    cases x with
    | building s => cases hx
    | call op => cases op <;> cases hx; rfl
    | log s worker => cases s <;> cases hx; rfl

section
variable {x : Occurrence}

theorem stepsOf_of_opens {path : String} (hx : x.opens? = some path) (g : Gateway) :
    g.stepsOf x = [.mirrorTo path] := by
  cases x with
  | building s => cases s <;> cases hx; rfl
  | call op => cases op <;> cases hx; rfl
  | log s worker => cases s <;> cases hx; rfl

theorem opensNothing_stepsOf (hx : x.opens? = none) (hpath : x.OpensByPath) (g : Gateway) :
    ∀ s ∈ g.stepsOf x, s.OpensNothing := by
  cases x with
  | building s =>
    cases s with
    | mirror path => cases hx
    | register s =>
      exact fun t ht => (g.modest_registerSteps s.endpoint s.protocols t ht).opensNothing
    | change c => exact fun t ht => (g.modest_changeSteps c t ht).opensNothing
  | call op =>
    by_cases hlevel : ∃ level, op = .setLogLevel level
    · obtain ⟨level, rfl⟩ := hlevel
      exact List.forall_mem_singleton.2 trivial
    · refine fun s hs =>
        (g.modest_logSteps (not_exists.1 hlevel) (fun path hop => ?_) s hs).opensNothing
      rw [hop] at hx
      cases hx
  | log s worker =>
    refine List.forall_mem_singleton.2 ?_
    cases s with
    | setMirror mirror => exact fun m hm => hpath m (congrArg LogStep.setMirror hm)
    | mirrorTo path => cases hx
    | _ => trivial

end

theorem sameFiles_meet {g g' : Gateway} (h : g.log.SameFiles g'.log) {x x' : Occurrence}
    (hx : x.Respelled x') :
    (g.meet x).log.SameFiles (g'.meet x').log := by
  obtain ⟨hopens, -, hpath, hpath'⟩ := hx.settings
  have hleads := g.leads_meet x
  have hleads' := g'.leads_meet x'
  cases ho : x.opens? with
  | none =>
    have hnothing := opensNothing_stepsOf ho hpath g
    have hnothing' := opensNothing_stepsOf (hopens ▸ ho) hpath' g'
    exact h.of_leads hleads hnothing hleads' hnothing'
  | some path =>
    rw [stepsOf_of_opens ho] at hleads
    rw [stepsOf_of_opens (hopens ▸ ho)] at hleads'
    -- but for remarks, the logs are as the mirror's opening leaves them
    have hrest : (g.log.perform (.mirrorTo path)).Leads [] (g.meet x).log := hleads
    have hrest' : (g'.log.perform (.mirrorTo path)).Leads [] (g'.meet x').log := hleads'
    exact (h.perform_mirrorTo path).of_leads hrest (List.forall_mem_nil _) hrest'
      (List.forall_mem_nil _)

/-- Gateways that differ in how processes are spelt, in what is in their logs and in their
workers. -/
structure Namesake (g g' : Gateway) : Prop extends SameThrough PolicyTable.plain g g' where
  level : g.log.level = g'.log.level
  files : g.log.SameFiles g'.log

section
variable {g g' : Gateway} (h : g.Namesake g')
include h

theorem mirrorTo_respelled (path : String) :
    (∃ error, g.mirrorTo path = .error error ∧ g'.mirrorTo path = .error error) ∨
    ∃ m m', g.mirrorTo path = .ok m ∧ g'.mirrorTo path = .ok m' ∧
      SameThrough PolicyTable.plain m m' := by
  unfold mirrorTo
  rcases h.files.mirrorTo path with ⟨error, hp, hq⟩ | ⟨p, q, hp, hq, -⟩
  · rw [hp, hq]
    exact .inl ⟨_, rfl, rfl⟩
  · rw [hp, hq]
    exact .inr ⟨_, _, rfl, rfl, h.engine, h.stage⟩

theorem take_respelled {s s' : BuildStep} (hs : s.Respelled s') :
    (g.take s).1.mapError GatewayError.plain = (g'.take s').1.mapError GatewayError.plain ∧
      SameThrough PolicyTable.plain (g.take s).2 (g'.take s').2 := by
  cases hs with
  | mirror path =>
    rcases mirrorTo_respelled h path with ⟨error, hp, hq⟩ | ⟨m, m', hp, hq, hsame⟩
    · rw [take, take, hp, hq]
      exact ⟨rfl, h.toSameThrough⟩
    · rw [take, take, hp, hq]
      exact ⟨rfl, hsame⟩
  | register hs =>
    obtain ⟨processes, -, rfl⟩ := hs
    obtain ⟨hanswer, hengine⟩ := (Engine.heedless_register _ _ _ _).congr h.engine
    exact ⟨congrArg (fun r : Except GatewayError Handle =>
      (r.map fun _ => ()).mapError GatewayError.plain) hanswer,
      hengine, h.stage⟩
  | change hc =>
    obtain ⟨hanswer, hengine⟩ := Engine.change_respelled h.engine hc.plain_eq
    exact ⟨hanswer, hengine, h.stage⟩

theorem perform_respelled {op op' : Operation} (hop : op.Respelled op') (view : Answer → Answer)
    (hview : view (.entries g.log.pending) = view (.entries g'.log.pending)) :
    seen view (g.perform op).1 = seen view (g'.perform op').1 ∧
      SameThrough PolicyTable.plain (g.perform op).2 (g'.perform op').2 := by
  cases hop with
  | nameless hnone =>
    have hheedless : op.heedless = true →
        seen view (g.perform op).1 = seen view (g'.perform op).1 ∧
        SameThrough PolicyTable.plain (g.perform op).2 (g'.perform op).2 := by
      intro hop
      obtain ⟨hanswer, hsame⟩ := h.toSameThrough.perform hop
      exact ⟨congrArg (seen view) hanswer, hsame⟩
    cases op with
    | change c => cases hnone
    | decide process destination protocol => cases hnone
    | report event payload =>
      have haccepted : (g.report event payload).1 = (g'.report event payload).1 := by
        show (g.log.append _ event payload).1 = (g'.log.append _ event payload).1
        rw [Pipeline.accepted_append, Pipeline.accepted_append, h.level]
      exact ⟨congrArg (fun accepted => seen view (.ok (.accepted accepted))) haccepted,
        h.engine, h.stage⟩
    | readLog => exact ⟨congrArg Except.ok hview, h.engine, h.stage⟩
    | setLogMirror path =>
      rcases mirrorTo_respelled h path with ⟨error, hp, hq⟩ | ⟨m, m', hp, hq, hsame⟩
      · rw [perform, perform, hp, hq]
        exact ⟨rfl, h.toSameThrough⟩
      · rw [perform, perform, hp, hq]
        exact ⟨rfl, hsame⟩
    | _ => exact hheedless rfl
  | change hc =>
    obtain ⟨hanswer, hengine⟩ := Engine.change_respelled h.engine hc.plain_eq
    refine ⟨?_, hengine, h.stage⟩
    have hseen : ∀ r : Except GatewayError Unit,
        seen view (r.map fun _ => .done) = (r.mapError GatewayError.plain).map fun _ =>
          view .done := by
      intro r
      cases r <;> rfl
    exact ((hseen _).trans (congrArg (Except.map fun _ => view .done) hanswer)).trans (hseen _).symm
  | decide hpq destination protocol =>
    have hdecision := Engine.evaluate_respelled h.engine hpq destination.address.canonical protocol
    exact ⟨congrArg (fun d => seen view (.ok (.decision d))) hdecision, h.engine, h.stage⟩

theorem namesake_meet {x x' : Occurrence} (hx : x.Respelled x') :
    (g.meet x).Namesake (g'.meet x') := by
  have hsame : SameThrough PolicyTable.plain (g.meet x) (g'.meet x') := by
    cases hx with
    | building hs => exact (take_respelled h hs).2
    | call hop => exact (perform_respelled h hop (fun _ => .done) rfl).2
    | log worker hs => exact ⟨h.engine, h.stage⟩
  refine ⟨hsame, ?_, sameFiles_meet h.files hx⟩
  rw [level_meet, level_meet, h.level, hx.settings.2.1]

end

theorem namesake_lived {g g' : Gateway} (h : g.Namesake g') {xs ys : List Occurrence}
    (hxs : List.Forall₂ Occurrence.Respelled xs ys) : (g.lived xs).Namesake (g'.lived ys) ∧
      (g.replies xs).map (seen Answer.unread) = (g'.replies ys).map (seen Answer.unread) := by
  induction hxs generalizing g g' with
  | nil => exact ⟨h, rfl⟩
  | cons hx _ ih =>
    obtain ⟨hlast, hreplies⟩ := ih (namesake_meet h hx)
    refine ⟨hlast, ?_⟩
    cases hx with
    | building hs => exact hreplies
    | call hop => exact congrArg₂ List.cons (perform_respelled h hop Answer.unread rfl).1 hreplies
    | log worker hs => exact hreplies

end Gateway
end SocksGateway
