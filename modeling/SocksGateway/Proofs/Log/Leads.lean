import SocksGateway.Proofs.Log.Conservation

/-!
Logs but for the remarks that are made about them. Remarks change nothing in a log, so whatever
makes remarks between the steps of a log leads where the steps alone would.
-/
namespace SocksGateway.Pipeline

/-- A log without the remarks. -/
def silent (p : Pipeline) : Pipeline := { p with diagnostics := #[] }

/-- The steps lead from one log to another, but for remarks. -/
def Leads (p : Pipeline) (steps : List LogStep) (q : Pipeline) : Prop :=
  q.silent = (p.after steps).silent

theorem silent_onMirror (p : Pipeline) (agent : Agent)
    (act : Mirror → FileTree → Mirror.Outcome) :
    (p.onMirror agent act).silent = (p.silent.onMirror agent act).silent := by
  have hmirror : p.silent.mirror = p.mirror := rfl
  unfold onMirror
  rw [hmirror]
  split <;> rfl

theorem silent_append (p : Pipeline) (level : Level) (event : EventKind) (payload : Payload) :
    (p.append level event payload).2.silent = (p.silent.append level event payload).2.silent := by
  have hlevel : p.silent.level = p.level := rfl
  unfold append
  rw [hlevel]
  split
  next =>
    have h := p.silent_onMirror .caller (·.record · (p.entry event payload))
    exact congrArg (fun q : Pipeline => { q with ring := q.ring.push (p.entry event payload) }) h
  next => rfl

theorem silent_deliver (p : Pipeline) (agent : Agent) :
    (p.deliver agent).log.silent = (p.silent.deliver agent).log.silent := by
  have hover : p.silent.handOver = p.handOver := rfl
  unfold deliver
  dsimp only
  rw [hover]
  split
  next => rfl
  next =>
    exact ((p.drained agent).silent_onMirror agent _).trans
      ((p.silent.drained agent).silent_onMirror agent _).symm

theorem silent_perform (p : Pipeline) (s : LogStep) :
    (p.perform s).silent = (p.silent.perform s).silent := by
  cases s with
  | append level event payload => exact p.silent_append level event payload
  | message level text => exact p.silent_append level .message (.description text)
  | mirrorTo path =>
    have hfiles : p.silent.files = p.files := rfl
    simp only [perform, mirrorTo, hfiles]
    cases Mirror.openFile p.files path <;> rfl
  | deliver agent => exact p.silent_deliver agent
  | work w =>
    simp only [perform, DrainWorker.step]
    cases w.phase with
    | awake last => exact p.silent_deliver .worker
    | delivered last => cases last <;> rfl
    | _ => rfl
  | _ => rfl

theorem silent_after {p q : Pipeline} (h : p.silent = q.silent) (steps : List LogStep) :
    (p.after steps).silent = (q.after steps).silent := by
  induction steps generalizing p q with
  | nil => exact h
  | cons s steps ih =>
    refine ih ?_
    rw [silent_perform, h, ← silent_perform]

theorem after_append (p : Pipeline) (as bs : List LogStep) :
    p.after (as ++ bs) = (p.after as).after bs :=
  List.foldl_append

namespace Leads

theorem refl (p : Pipeline) : p.Leads [] p := rfl

theorem step (p : Pipeline) (s : LogStep) : p.Leads [s] (p.perform s) := rfl

theorem remark (p : Pipeline) (severity : Severity) (text : String) (agent : Agent) :
    p.Leads [] (p.diagnose severity text agent) := rfl

theorem trans {p q r : Pipeline} {as bs : List LogStep} (h : p.Leads as q) (h' : q.Leads bs r) :
    p.Leads (as ++ bs) r := by
  unfold Leads at h h' ⊢
  rw [after_append, h', silent_after h]

theorem mirror {p q : Pipeline} {steps : List LogStep} (h : p.Leads steps q) :
    q.mirror = (p.after steps).mirror := congrArg (·.mirror) h

theorem files {p q : Pipeline} {steps : List LogStep} (h : p.Leads steps q) :
    q.files = (p.after steps).files :=
  congrArg (·.files) h

end Leads
end SocksGateway.Pipeline
