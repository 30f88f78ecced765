import SocksGateway.Proofs.Log.FanOut
import SocksGateway.Proofs.Log.Unmirrored

/-!
Logs without the words in them. Where no subscriber looks at the texts of entries, it makes no
difference to a log which texts they are: two logs that differ in texts only, and are told the same
but for texts, go on to differ in texts only.
-/
namespace SocksGateway

def Payload.wordless : Payload → Payload
  | description _ => description ""
  | data value => data value

def Entry.wordless (e : Entry) : Entry := { e with payload := e.payload.wordless }

def Delivery.wordless (d : Delivery) : Delivery := { d with batch := d.batch.map Entry.wordless }

/-- A subscriber that reacts to the entries of a batch whatever their texts are. -/
def Subscriber.IgnoresWords (s : Subscriber) : Prop :=
  ∀ batch, s.reaction (batch.map Entry.wordless) = s.reaction batch

namespace LogStep

def wordless : LogStep → LogStep
  | append level event payload => append level event payload.wordless
  | message level _ => message level ""
  | s => s

end LogStep

namespace Ring
variable {α : Type} (f : α → α) (r : Ring α)

def map : Ring α where
  older := r.older.map f
  newer := r.newer.map f
  size := r.size
  limit := r.limit
  limit_pos := r.limit_pos
  size_eq := by simp [r.size_eq]
  size_le := r.size_le

theorem entries_map : (r.map f).entries = r.entries.map f := by
  simp [map, entries]

theorem map_map_of_idempotent (hf : ∀ a, f (f a) = f a) : (r.map f).map f = r.map f := by
  simp [map, hf]

theorem tail_map : (r.map f).tail = r.tail.map f := by
  cases h : r.older <;> simp [tail, map, h]

theorem room_map : (r.map f).room = r.room.map f := by
  show (if r.size < r.limit then r.map f else (r.map f).tail) =
      (if r.size < r.limit then r else r.tail).map f
  rw [tail_map]
  split <;> rfl

theorem push_map (a : α) : (r.map f).push (f a) = (r.push a).map f := by
  simp only [push, room_map]
  rfl

theorem setLimit_map (limit : Nat) : (r.map f).setLimit limit = (r.setLimit limit).map f := by
  simp [setLimit, map, entries]

end Ring

theorem Entry.wordless_wordless (e : Entry) : e.wordless.wordless = e.wordless := by
  obtain ⟨timestamp, event, payload⟩ := e
  cases payload <;> rfl

theorem Delivery.wordless_wordless (d : Delivery) : d.wordless.wordless = d.wordless := by
  simp [wordless, Entry.wordless_wordless]

namespace HandOver

theorem run_wordless {ss : List Subscriber} (h : ∀ s ∈ ss, s.IgnoresWords)
    (batch : List Entry) :
    run (batch.map Entry.wordless) ss =
      { run batch ss with deliveries := (run batch ss).deliveries.map Delivery.wordless } := by
  induction ss with
  | nil => rfl
  | cons s ss ih =>
    obtain ⟨hs, hss⟩ := List.forall_mem_cons.1 h
    have hreaction := hs batch
    simp only [run, hreaction, ih hss]
    cases s.reaction batch <;> rfl

end HandOver

namespace Pipeline

def wordless (p : Pipeline) : Pipeline :=
  { p.bare with
    ring := p.ring.map Entry.wordless
    deliveries := p.deliveries.map Delivery.wordless }

theorem wordless_of_bare {p q : Pipeline} (h : p.bare = q.bare) : p.wordless = q.wordless :=
  congrArg (fun b : Pipeline => { b with
    ring := b.ring.map Entry.wordless
    deliveries := b.deliveries.map Delivery.wordless }) h

theorem wordless_wordless (p : Pipeline) : p.wordless.wordless = p.wordless := by
  have hring := p.ring.map_map_of_idempotent Entry.wordless Entry.wordless_wordless
  have hdeliveries : (p.deliveries.map Delivery.wordless).map Delivery.wordless =
      p.deliveries.map Delivery.wordless := by
    simp [Function.comp_def, Delivery.wordless_wordless]
  show { p.bare with
    ring := (p.ring.map Entry.wordless).map Entry.wordless
    deliveries := (p.deliveries.map Delivery.wordless).map Delivery.wordless } = p.wordless
  rw [hring, hdeliveries, wordless]

theorem pending_wordless (p : Pipeline) : p.wordless.pending = p.pending.map Entry.wordless :=
  p.ring.entries_map Entry.wordless

theorem bare_accept (p : Pipeline) (e : Entry) :
    (p.accept e).bare = { p.bare with ring := p.ring.push e } := 
  congrArg (fun b : Pipeline => { b with ring := b.ring.push e })
    (p.bare_onMirror .caller (·.record · e))

theorem wordless_append (p : Pipeline) (level : Level) (event : EventKind) (payload : Payload) :
    (p.append level event payload).2.wordless =
      (p.wordless.append level event payload.wordless).2.wordless := by
  have hlevel : p.wordless.level = p.level := rfl
  unfold append
  rw [hlevel]
  split
  next =>
    let e := p.entry event payload
    let q : Pipeline := { p.bare with ring := p.ring.push e }
    have hpushed : (p.wordless.accept e.wordless).bare = q.wordless := by
      rw [bare_accept]
      exact congrArg (fun ring => { p.wordless with ring }) (p.ring.push_map Entry.wordless e)
    calc (p.accept e).wordless = q.wordless := wordless_of_bare (p.bare_accept e)
      _ = q.wordless.wordless := q.wordless_wordless.symm
      _ = (p.wordless.accept e.wordless).wordless := (wordless_of_bare hpushed).symm
  next => exact p.wordless_wordless.symm

section
variable {p : Pipeline} (h : ∀ s ∈ p.subscribers, s.IgnoresWords)
include h

theorem handOver_wordless : p.wordless.handOver =
    { p.handOver with deliveries := p.handOver.deliveries.map Delivery.wordless } := by
  unfold handOver
  rw [pending_wordless, List.isEmpty_map]
  split
  · rfl
  · exact HandOver.run_wordless h p.pending

theorem wordless_deliver (agent : Agent) :
    (p.deliver agent).log.wordless = (p.wordless.deliver agent).log.wordless := by
  have hdrained : ∀ q : Pipeline,
      (q.deliver agent).log.wordless = (q.drained agent).wordless := by
    intro q
    unfold deliver
    dsimp only
    split
    · rfl
    · exact wordless_of_bare ((q.drained agent).bare_onMirror agent _)
  have hover : (p.wordless.drained agent).bare = (p.drained agent).wordless := by
    have hdeliveries : p.deliveries.map Delivery.wordless ++ p.wordless.handOver.deliveries =
        (p.deliveries ++ p.handOver.deliveries).map Delivery.wordless := by
      rw [handOver_wordless h]
      apply Array.ext'
      simp
    exact congrArg (fun deliveries => { (p.drained agent).wordless with deliveries }) hdeliveries
  rw [hdrained, hdrained, ← wordless_wordless]
  exact (wordless_of_bare hover).symm

theorem step_wordless (w : DrainWorker) :
    (w.step p.wordless).1 = (w.step p).1 ∧
      (w.step p).2.wordless = (w.step p.wordless).2.wordless := by
  unfold DrainWorker.step
  cases w.phase with
  | awake last =>
    have hblocked : (p.wordless.deliver .worker).blocked = (p.deliver .worker).blocked :=
      congrArg (·.blocked) (handOver_wordless h)
    simp only [DrainWorker.afterDelivery, hblocked]
    exact ⟨trivial, wordless_deliver h .worker⟩
  | delivered last =>
    cases last with
    | false => exact ⟨rfl, p.wordless_wordless.symm⟩
    | true => exact ⟨rfl, p.wordless_wordless.symm⟩
  | _ => exact ⟨rfl, p.wordless_wordless.symm⟩

theorem wordless_perform (s : LogStep) :
    (p.perform s).wordless = (p.wordless.perform s.wordless).wordless := by
  have hinstalls : ∀ {t : LogStep}, t.installs = true →
      (p.perform t).wordless = (p.wordless.perform t).wordless := by
    intro t ht
    rw [wordless_of_bare (p.bare_of_installs ht), wordless_of_bare (p.wordless.bare_of_installs ht)]
    exact p.wordless_wordless.symm
  have hring : ∀ (f : Ring Entry → Ring Entry),
      (∀ r : Ring Entry, f (r.map Entry.wordless) = (f r).map Entry.wordless) →
        ({ p with ring := f p.ring } : Pipeline).wordless =
          ({ p.wordless with ring := f p.wordless.ring } : Pipeline).wordless := by
    intro f hf
    let q : Pipeline := { p with ring := f p.ring }
    have hq : ({ p.wordless with ring := f p.wordless.ring } : Pipeline) = q.wordless :=
      congrArg (fun ring => { p.wordless with ring }) (hf p.ring)
    rw [hq]
    exact q.wordless_wordless.symm
  cases s with
  | append level event payload => exact p.wordless_append level event payload
  | message level text => exact p.wordless_append level .message (.description text)
  | setLevel level => exact congrArg (·.setLevel level) p.wordless_wordless.symm
  | setLimit limit => exact hring (·.setLimit limit) fun r => r.setLimit_map Entry.wordless limit
  | setInterval interval => exact congrArg (·.setInterval interval) p.wordless_wordless.symm
  | setMirror mirror => exact hinstalls rfl
  | mirrorTo path => exact hinstalls rfl
  | subscribe s => exact congrArg (·.subscribe s) p.wordless_wordless.symm
  | take => exact hring (·.clear) fun r => rfl
  | deliver agent => exact wordless_deliver h agent
  | work w => exact (step_wordless h w).2
  | tick clock => exact congrArg (fun q : Pipeline => { q with clock }) p.wordless_wordless.symm

end

theorem wordless_of_silent {p q : Pipeline} (h : p.silent = q.silent) :
    p.wordless = q.wordless := by
  have hsilent : ∀ p : Pipeline, p.silent.wordless = p.wordless := fun _ => rfl
  rw [← hsilent p, h, hsilent]

/-- Logs that differ in texts only, which no subscriber takes notice of. -/
structure Retold (p q : Pipeline) : Prop where
  same : p.wordless = q.wordless
  unread : ∀ s ∈ p.subscribers, s.IgnoresWords

namespace Retold
variable {p q : Pipeline} (h : p.Retold q)
include h

theorem subscribers_eq : p.subscribers = q.subscribers := congrArg (·.subscribers) h.same

theorem unread_right : ∀ s ∈ q.subscribers, s.IgnoresWords := h.subscribers_eq ▸ h.unread

theorem pending_eq : p.pending.map Entry.wordless = q.pending.map Entry.wordless := by
  rw [← pending_wordless, h.same, pending_wordless]

theorem perform {s t : LogStep} (hst : s.wordless = t.wordless)
    (hs : ∀ x ∈ (p.perform s).subscribers, x.IgnoresWords) :
    (p.perform s).Retold (q.perform t) := by
  refine ⟨?_, hs⟩
  rw [wordless_perform h.unread, wordless_perform h.unread_right, h.same, hst]

theorem step (w : DrainWorker) :
    (w.step p).1 = (w.step q).1 ∧ (w.step p).2.Retold (w.step q).2 := by
  constructor
  · rw [← (step_wordless h.unread w).1, ← (step_wordless h.unread_right w).1, h.same]
  · refine h.perform (s := .work w) (t := .work w) rfl ?_
    show ∀ x ∈ (w.step p).2.subscribers, x.IgnoresWords
    rw [w.subscribers_step]
    exact h.unread

end Retold

theorem Leads.subscribers {p q : Pipeline} {steps : List LogStep} (h : p.Leads steps q) :
    q.subscribers = p.subscribers ++ steps.flatMap LogStep.subscribed :=
  (congrArg (·.subscribers) h).trans (p.subscribers_after steps)

theorem Leads.subscribers_subset {p q : Pipeline} {steps : List LogStep} (h : p.Leads steps q) :
    p.subscribers ⊆ q.subscribers := by
  rw [h.subscribers]
  exact List.subset_append_left _ _

theorem Retold.after {p q : Pipeline} (h : p.Retold q) {as bs : List LogStep}
    (hsteps : as.map LogStep.wordless = bs.map LogStep.wordless)
    (hs : ∀ x ∈ (p.after as).subscribers, x.IgnoresWords) :
    (p.after as).Retold (q.after bs) := by
  induction as generalizing p q bs with
  | nil =>
    obtain rfl := List.map_eq_nil_iff.1 hsteps.symm
    exact h
  | cons s as ih =>
    cases bs with
    | nil => cases hsteps
    | cons t bs =>
      obtain ⟨hst, hrest⟩ := List.cons.inj hsteps
      have hleads : (p.perform s).Leads as (p.after (s :: as)) := rfl
      exact ih (h.perform hst fun x hx => hs x (hleads.subscribers_subset hx)) hrest hs

theorem Retold.of_leads {p q p' q' : Pipeline} (h : p.Retold q) {as bs : List LogStep}
    (hp : p.Leads as p') (hq : q.Leads bs q')
    (hsteps : as.map LogStep.wordless = bs.map LogStep.wordless)
    (hs : ∀ x ∈ p'.subscribers, x.IgnoresWords) : p'.Retold q' := by
  have hsubscribers : (p.after as).subscribers = p'.subscribers :=
    (congrArg (·.subscribers) hp).symm
  have hafter := h.after hsteps (hsubscribers ▸ hs)
  refine ⟨?_, hs⟩
  rw [wordless_of_silent hp, hafter.same, wordless_of_silent hq]

end Pipeline

namespace DrainWorker

variable {p q : Pipeline} (h : p.Retold q)
include h

theorem steps_retold (n : Nat) (w : DrainWorker) :
    (steps n w p).1 = (steps n w q).1 ∧ (steps n w p).2.Retold (steps n w q).2 := by
  induction n generalizing w p q with
  | zero => exact ⟨rfl, h⟩
  | succ n ih =>
    obtain ⟨hworker, hlog⟩ := h.step w
    simp only [steps, ← hworker]
    exact ih hlog _

end DrainWorker
end SocksGateway
