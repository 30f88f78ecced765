import SocksGateway.Proofs.Log.Leads

/-!
Logs without their mirrors. What a log returns, and what its subscribers get, depends neither on a
mirror nor on how the writing to it goes: it is what a log gives that never has a mirror.
-/
namespace SocksGateway

inductive LogAnswer
  | accepted (yes : Bool)
  | taken (batch : List Entry)
  | delivered (count : Nat)
deriving DecidableEq

def LogStep.installs : LogStep → Bool
  | setMirror _ => true
  | mirrorTo _ => true
  | _ => false

namespace Pipeline

/-- A log without its mirror, the files and the remarks. -/
def bare (p : Pipeline) : Pipeline := { p with mirror := none, files := {}, diagnostics := #[] }

def deliveryAnswers (p : Pipeline) (agent : Agent) : List LogAnswer :=
  if (p.deliver agent).blocked then [] else [.delivered (p.deliver agent).count]

def answers (p : Pipeline) : LogStep → List LogAnswer
  | .append level event payload => [.accepted (p.append level event payload).1]
  | .message level text => [.accepted (p.message level text).1]
  | .take => [.taken p.take.1]
  | .deliver agent => p.deliveryAnswers agent
  | .work w => (p.served w).flatMap fun _ => p.deliveryAnswers .worker
  | _ => []

theorem bare_onMirror (p : Pipeline) (agent : Agent)
    (act : Mirror → FileTree → Mirror.Outcome) :
    (p.onMirror agent act).bare = p.bare := by
  unfold onMirror; split <;> rfl

theorem bare_append (p : Pipeline) (level : Level) (event : EventKind) (payload : Payload) :
    (p.append level event payload).2.bare = (p.bare.append level event payload).2.bare := by
  have hlevel : p.bare.level = p.level := rfl
  unfold append
  rw [hlevel]
  split
  next =>
    have h := p.bare_onMirror .caller (·.record · (p.entry event payload))
    exact congrArg (fun q : Pipeline => { q with ring := q.ring.push (p.entry event payload) }) h
  next => rfl

theorem bare_deliver (p : Pipeline) (agent : Agent) :
    (p.deliver agent).log.bare = (p.bare.deliver agent).log.bare := by
  have hover : p.bare.handOver = p.handOver := rfl
  unfold deliver
  dsimp only
  rw [hover]
  split
  next => rfl
  next =>
    exact ((p.drained agent).bare_onMirror agent _).trans
      ((p.bare.drained agent).bare_onMirror agent _).symm

theorem bare_mirrorTo {p q : Pipeline} {path : String} (h : p.mirrorTo path = .ok q) :
    q.bare = p.bare := by
  unfold mirrorTo at h
  cases ho : Mirror.openFile p.files path with
  | error error => rw [ho] at h; cases h
  | ok o => rw [ho] at h; cases h; rfl

theorem bare_of_installs (p : Pipeline) {s : LogStep} (hs : s.installs = true) :
    (p.perform s).bare = p.bare := by
  cases s with
  | setMirror mirror => rfl
  | mirrorTo path =>
    simp only [perform]
    cases h : p.mirrorTo path with
    | ok q => exact bare_mirrorTo h
    | error error => rfl
  | _ => cases hs

/-- What any other step makes of a log does not depend on the mirror. -/
theorem bare_perform (p : Pipeline) {s : LogStep} (hs : s.installs = false) :
    (p.perform s).bare = (p.bare.perform s).bare := by
  cases s with
  | append level event payload => exact p.bare_append level event payload
  | message level text => exact p.bare_append level .message (.description text)
  | setMirror mirror => cases hs
  | mirrorTo path => cases hs
  | deliver agent => exact p.bare_deliver agent
  | work w =>
    simp only [perform, DrainWorker.step]
    cases w.phase with
    | awake last => exact p.bare_deliver .worker
    | delivered last => cases last <;> rfl
    | _ => rfl
  | _ => rfl

theorem answers_bare (p : Pipeline) (s : LogStep) : p.answers s = p.bare.answers s := by
  have happend : ∀ level event payload,
      (p.append level event payload).1 = (p.bare.append level event payload).1 := by
    intro level event payload
    have hlevel : p.bare.level = p.level := rfl
    unfold append
    rw [hlevel]
    split <;> rfl
  cases s with
  | append level event payload =>
    exact congrArg (fun yes => [LogAnswer.accepted yes]) (happend level event payload)
  | message level text =>
    exact congrArg (fun yes => [LogAnswer.accepted yes])
      (happend level .message (.description text))
  | work w =>
    unfold answers served
    cases w.phase <;> rfl
  | _ => rfl

theorem answers_of_installs (p : Pipeline) {s : LogStep} (hs : s.installs = true) :
    p.answers s = [] := by
  cases s with
  | setMirror mirror => rfl
  | mirrorTo path => rfl
  | _ => cases hs

/-- Two logs that differ in their mirrors, and go on with whatever mirrors, return the same and come
to the same. -/
theorem answers_along {p q : Pipeline} (h : p.bare = q.bare) (steps : List LogStep) :
    along answers p steps = along answers q (steps.filter (!·.installs)) ∧
      (p.after steps).bare = (q.after (steps.filter (!·.installs))).bare := by
  induction steps generalizing p q with
  | nil => exact ⟨rfl, h⟩
  | cons s steps ih =>
    cases hs : s.installs with
    | true =>
      obtain ⟨hanswers, hafter⟩ := ih (p := p.perform s) ((p.bare_of_installs hs).trans h)
      rw [List.filter_cons_of_neg (by simp [hs]), along, answers_of_installs p hs]
      exact ⟨hanswers, hafter⟩
    | false =>
      have hstep : (p.perform s).bare = (q.perform s).bare := by
        rw [bare_perform p hs, bare_perform q hs, h]
      obtain ⟨hanswers, hafter⟩ := ih hstep
      rw [List.filter_cons_of_pos (by simp [hs]), along, along, hanswers,
        answers_bare p, answers_bare q, h]
      exact ⟨rfl, hafter⟩

end Pipeline
end SocksGateway
