import SocksGateway.Log.DrainWorker

/-!
Where the entries of a log go. An entry that was accepted waits until it leaves, and it leaves once:
taken, delivered in a batch, or evicted because the log is full. Entries leave in the order in which
they came.
-/
namespace SocksGateway

/-- What can happen to a log; a worker comes as it is by then. -/
inductive LogStep
  | append (level : Level) (event : EventKind) (payload : Payload)
  | message (level : Level) (text : String)
  | setLevel (level : Level)
  | setLimit (limit : Nat)
  | setInterval (interval : Duration)
  | setMirror (mirror : Option Mirror)
  | mirrorTo (path : String)
  | subscribe (subscriber : Subscriber)
  | take
  | deliver (agent : Agent)
  | work (worker : DrainWorker)
  | tick (clock : UInt64)

/-- A way out of a log: taken by a caller, delivered to the subscribers that were reached, or
dropped. -/
inductive Departure
  | taken (batch : List Entry)
  | delivered (batch : List Entry) (readers : List String)
  | evicted (entries : List Entry)

namespace Departure

def entries : Departure → List Entry
  | taken batch => batch
  | delivered batch _ => batch
  | evicted entries => entries

/-- What somebody gets of it. -/
def handed : Departure → List Entry
  | taken batch => batch
  | delivered batch _ => batch
  | evicted _ => []

def deliveries : Departure → List Delivery
  | delivered batch readers => readers.map (⟨·, batch⟩)
  | _ => []

theorem handed_sublist (d : Departure) : d.handed.Sublist d.entries := by
  cases d with
  | taken batch => exact .refl batch
  | delivered batch readers => exact .refl batch
  | evicted entries => exact List.nil_sublist entries

end Departure

theorem HandOver.deliveries_eq (batch : List Entry) (ss : List Subscriber) :
    (run batch ss).deliveries = ((run batch ss).deliveries.map (·.subscriber)).map
      (⟨·, batch⟩) := by
  induction ss with
  | nil => rfl
  | cons s ss ih =>
    unfold run
    split
    · exact congrArg _ ih
    · exact congrArg _ ih
    · rfl

namespace Pipeline

def perform (p : Pipeline) : LogStep → Pipeline
  | .append level event payload => (p.append level event payload).2
  | .message level text => (p.message level text).2
  | .setLevel level => p.setLevel level
  | .setLimit limit => p.setLimit limit
  | .setInterval interval => p.setInterval interval
  | .setMirror mirror => p.setMirror mirror
  | .mirrorTo path =>
    match p.mirrorTo path with
    | .ok p => p
    | .error _ => p
  | .subscribe s => p.subscribe s
  | .take => p.take.2
  | .deliver agent => (p.deliver agent).log
  | .work w => (w.step p).2
  | .tick clock => { p with clock }

def after (p : Pipeline) (steps : List LogStep) : Pipeline := steps.foldl perform p

def arrival (p : Pipeline) (accepted : Bool) (event : EventKind) (payload : Payload) : List Entry :=
  if accepted then [p.entry event payload] else []

/-- What a step brings into the log. -/
def accepted (p : Pipeline) : LogStep → List Entry
  | .append level event payload => p.arrival (p.append level event payload).1 event payload
  | .message level text => p.arrival (p.message level text).1 .message (.description text)
  | _ => []

/-- What makes way for an entry that was accepted. -/
def displaced (p : Pipeline) (accepted : Bool) : List Departure :=
  if accepted then [.evicted (p.pending.take p.ring.evicted)] else []

def delivery (p : Pipeline) : Departure :=
  .delivered p.pending (p.handOver.deliveries.map (·.subscriber))

def served (p : Pipeline) (w : DrainWorker) : List Departure :=
  match w.phase with
  | .awake _ => [p.delivery]
  | _ => []

/-- What leaves the log in a step. -/
def departed (p : Pipeline) : LogStep → List Departure
  | .append level event payload => p.displaced (p.append level event payload).1
  | .message level text => p.displaced (p.message level text).1
  | .setLimit limit => [.evicted (p.pending.take (p.ring.size - max limit 1))]
  | .take => [.taken p.take.1]
  | .deliver _ => [p.delivery]
  | .work w => p.served w
  | _ => []

/-- What the steps of a run come to, one after the other. -/
def along {α : Type} (f : Pipeline → LogStep → List α) (p : Pipeline) :
    List LogStep → List α
  | [] => []
  | s :: steps => f p s ++ along f (p.perform s) steps

theorem append_of_allowed {p : Pipeline} {level : Level} (h : p.level.allows level = true)
    (event : EventKind) (payload : Payload) :
    p.append level event payload = (true, p.accept (p.entry event payload)) := if_pos h

theorem append_of_not_allowed {p : Pipeline} {level : Level} (h : p.level.allows level = false)
    (event : EventKind) (payload : Payload) : p.append level event payload = (false, p) := by
  rw [append, h]
  rfl

theorem accept_conserves (p : Pipeline) (e : Entry) :
    p.pending ++ [e] = p.pending.take p.ring.evicted ++ (p.accept e).pending := by
  have h : (p.accept e).pending = p.pending.drop p.ring.evicted ++ [e] := by
    simp only [accept, pending, onMirror_ring]
    exact Ring.entries_push _ _
  rw [h, ← List.append_assoc, List.take_append_drop]

theorem append_conserves (p : Pipeline) (level : Level) (event : EventKind) (payload : Payload) :
    p.pending ++ p.arrival (p.append level event payload).1 event payload =
      (p.displaced (p.append level event payload).1).flatMap Departure.entries ++
        (p.append level event payload).2.pending := by
  cases h : p.level.allows level with
  | true =>
    rw [append_of_allowed h, displaced, if_pos rfl, List.flatMap_singleton]
    exact p.accept_conserves _
  | false =>
    rw [append_of_not_allowed h]
    exact List.append_nil _

theorem setLimit_conserves (p : Pipeline) (limit : Nat) :
    p.pending = p.pending.take (p.ring.size - max limit 1) ++ (p.setLimit limit).pending := by
  rw [pending, pending, setLimit, Ring.entries_setLimit, List.take_append_drop]

theorem onMirror_deliveries (p : Pipeline) (agent : Agent)
    (act : Mirror → FileTree → Mirror.Outcome) :
    (p.onMirror agent act).deliveries = p.deliveries := by
  unfold onMirror; split <;> rfl

theorem mirrorTo_pending_deliveries {p q : Pipeline} {path : String} (h : p.mirrorTo path = .ok q) :
    q.pending = p.pending ∧ q.deliveries = p.deliveries := by
  unfold mirrorTo at h
  cases ho : Mirror.openFile p.files path with
  | error error => rw [ho] at h; cases h
  | ok o => rw [ho] at h; cases h; exact ⟨rfl, rfl⟩

theorem deliver_conserves (p : Pipeline) (agent : Agent) :
    p.pending = p.delivery.entries ++ (p.deliver agent).log.pending := by
  rw [pending_deliver, List.append_nil]
  rfl

/-- A worker that is awake delivers; in any other phase it makes at most a remark. -/
theorem work_cases (p : Pipeline) (w : DrainWorker) :
    (p.served w = [p.delivery] ∧ (w.step p).2 = (p.deliver .worker).log) ∨
      (p.served w = [] ∧ ∃ diagnostics, (w.step p).2 = { p with diagnostics }) := by
  unfold served DrainWorker.step
  cases w.phase with
  | waiting => exact .inr ⟨rfl, p.diagnostics, rfl⟩
  | awake last => exact .inl ⟨rfl, rfl⟩
  | delivered last =>
    right
    cases last
    · exact ⟨rfl, p.diagnostics, rfl⟩
    · exact ⟨rfl, _, rfl⟩
  | finished => exact .inr ⟨rfl, p.diagnostics, rfl⟩
  | stuck => exact .inr ⟨rfl, p.diagnostics, rfl⟩

theorem work_conserves (p : Pipeline) (w : DrainWorker) :
    p.pending = (p.served w).flatMap Departure.entries ++ (w.step p).2.pending := by
  rcases p.work_cases w with ⟨hs, hw⟩ | ⟨hs, diagnostics, hw⟩
  · rw [hs, hw, List.flatMap_singleton]
    exact p.deliver_conserves .worker
  · rw [hs, hw]
    rfl

/-- Whatever is in the log before a step or comes with it leaves in that step, or is pending after
it. -/
theorem perform_conserves (p : Pipeline) (s : LogStep) :
    p.pending ++ p.accepted s = (p.departed s).flatMap Departure.entries ++
      (p.perform s).pending := by
  cases s with
  | append level event payload => exact p.append_conserves level event payload
  | message level text => exact p.append_conserves level .message (.description text)
  | setLimit limit =>
    rw [departed, List.flatMap_singleton]
    exact (List.append_nil _).trans (p.setLimit_conserves limit)
  | mirrorTo path =>
    refine (List.append_nil _).trans ?_
    simp only [perform]
    cases h : p.mirrorTo path with
    | ok q => exact (mirrorTo_pending_deliveries h).1.symm
    | error error => rfl
  | take =>
    rw [departed, List.flatMap_singleton]
    rfl
  | deliver agent =>
    rw [departed, List.flatMap_singleton]
    exact (List.append_nil _).trans (p.deliver_conserves agent)
  | work w => exact (List.append_nil _).trans (p.work_conserves w)
  | _ => exact List.append_nil _

theorem deliveries_append (p : Pipeline) (level : Level) (event : EventKind) (payload : Payload) :
    (p.append level event payload).2.deliveries = p.deliveries := by
  unfold append
  split
  next => exact p.onMirror_deliveries _ _
  next => rfl

theorem deliveries_displaced (p : Pipeline) (accepted : Bool) :
    (p.displaced accepted).flatMap Departure.deliveries = [] := by
  cases accepted <;> rfl

theorem deliveries_handOver (p : Pipeline) : p.handOver.deliveries = p.delivery.deliveries := by
  unfold delivery handOver
  split
  next => rfl
  next => exact HandOver.deliveries_eq p.pending p.subscribers

theorem deliveries_deliver (p : Pipeline) (agent : Agent) :
    (p.deliver agent).log.deliveries.toList = p.deliveries.toList ++ p.delivery.deliveries := by
  have hd : (p.deliver agent).log.deliveries = (p.drained agent).deliveries := by
    unfold deliver
    dsimp only
    split
    next => rfl
    next => exact onMirror_deliveries _ _ _
  rw [hd, drained, Array.toList_appendList, deliveries_handOver]

theorem deliveries_perform (p : Pipeline) (s : LogStep) :
    (p.perform s).deliveries.toList =
      p.deliveries.toList ++ (p.departed s).flatMap Departure.deliveries := by
  cases s with
  | append level event payload =>
    rw [departed, deliveries_displaced, List.append_nil, perform, deliveries_append]
  | message level text =>
    rw [departed, deliveries_displaced, List.append_nil, perform, message, deliveries_append]
  | mirrorTo path =>
    refine Eq.trans ?_ (List.append_nil _).symm
    simp only [perform]
    cases h : p.mirrorTo path with
    | ok q => rw [(mirrorTo_pending_deliveries h).2]
    | error error => rfl
  | deliver agent =>
    rw [departed, List.flatMap_singleton]
    exact p.deliveries_deliver agent
  | work w =>
    rw [departed, perform]
    rcases p.work_cases w with ⟨hs, hw⟩ | ⟨hs, diagnostics, hw⟩
    · rw [hs, hw, List.flatMap_singleton]
      exact p.deliveries_deliver .worker
    · rw [hs, hw]
      exact (List.append_nil _).symm
  | _ => exact (List.append_nil _).symm

/-- Why entries are evicted, if there are any: an entry came to a full log and took the place of
one, or there were more than a new limit lets stay. -/
def Evicts (p : Pipeline) (s : LogStep) (es : List Entry) : Prop :=
  es = [] ∨ (p.pending.length = p.limit ∧ es.length = 1 ∧ p.accepted s ≠ []) ∨
    ∃ limit, s = .setLimit limit ∧ es.length + max limit 1 = p.pending.length

theorem evicts_displaced {p : Pipeline} {s : LogStep} {accepted : Bool} {es : List Entry}
    (ha : accepted = true → p.accepted s ≠ []) (h : .evicted es ∈ p.displaced accepted) :
    p.displaced accepted = [.evicted es] ∧ p.Evicts s es := by
  cases accepted with
  | false => cases h
  | true =>
    have he : es = p.pending.take p.ring.evicted := by simpa [displaced] using h
    refine ⟨by rw [he]; rfl, ?_⟩
    have hsize : p.pending.length = p.ring.size := p.ring.length_entries
    by_cases hfull : p.ring.size = p.ring.limit
    · right; left
      have hone := p.ring.evicted_eq_one_iff.2 hfull
      have hpos := p.ring.limit_pos
      refine ⟨hsize.trans hfull, ?_, ha rfl⟩
      rw [he, hone, List.length_take]
      omega
    · left
      have hone : p.ring.evicted ≠ 1 := fun h => hfull (p.ring.evicted_eq_one_iff.1 h)
      have hle := p.ring.evicted_le_one
      have hzero : p.ring.evicted = 0 := by omega
      rw [he, hzero, List.take_zero]

theorem evicts_setLimit (p : Pipeline) (limit : Nat) :
    p.Evicts (.setLimit limit) (p.pending.take (p.ring.size - max limit 1)) := by
  have hsize : p.pending.length = p.ring.size := p.ring.length_entries
  by_cases hroom : p.ring.size ≤ max limit 1
  · left
    rw [Nat.sub_eq_zero_of_le hroom, List.take_zero]
  · right; right
    refine ⟨limit, rfl, ?_⟩
    rw [List.length_take]
    omega

theorem arrival_ne_nil {p : Pipeline} {accepted : Bool} (h : accepted = true) (event : EventKind)
    (payload : Payload) : p.arrival accepted event payload ≠ [] := by
  rw [arrival, if_pos h]
  exact List.cons_ne_nil _ _

theorem not_evicted_delivery {p : Pipeline} {es : List Entry} : .evicted es ∉ [p.delivery] := by
  simp [delivery]

theorem departed_of_evicted {p : Pipeline} {s : LogStep} {es : List Entry}
    (h : .evicted es ∈ p.departed s) :
    p.departed s = [.evicted es] ∧ p.Evicts s es := by
  cases s with
  | append level event payload =>
    exact evicts_displaced (fun ha => arrival_ne_nil ha event payload) h
  | message level text =>
    exact evicts_displaced (fun ha => arrival_ne_nil ha .message (.description text)) h
  | setLimit limit =>
    cases List.mem_singleton.1 h
    exact ⟨rfl, p.evicts_setLimit limit⟩
  | take => cases List.mem_singleton.1 h
  | deliver agent => exact absurd h not_evicted_delivery
  | work w =>
    rcases p.work_cases w with ⟨hs, -⟩ | ⟨hs, -⟩
    · rw [departed, hs] at h
      exact absurd h not_evicted_delivery
    · rw [departed, hs] at h
      cases h
  | _ => cases h

theorem handed_sublist (ds : List Departure) :
    (ds.flatMap Departure.handed).Sublist (ds.flatMap Departure.entries) := by
  induction ds with
  | nil => exact .refl []
  | cons d ds ih => exact d.handed_sublist.append ih

theorem run_conserves (p : Pipeline) (steps : List LogStep) :
    p.pending ++ along accepted p steps =
      (along departed p steps).flatMap Departure.entries ++ (p.after steps).pending := by
  induction steps generalizing p with
  | nil => exact List.append_nil _
  | cons s steps ih =>
    rw [along, along, ← List.append_assoc, perform_conserves, List.append_assoc,
      ih, ← List.append_assoc, ← List.flatMap_append]
    rfl

theorem deliveries_after (p : Pipeline) (steps : List LogStep) :
    (p.after steps).deliveries.toList =
      p.deliveries.toList ++ (along departed p steps).flatMap Departure.deliveries := by
  induction steps generalizing p with
  | nil => exact (List.append_nil _).symm
  | cons s steps ih =>
    rw [along, List.flatMap_append, ← List.append_assoc, ← deliveries_perform, ← ih]
    rfl

/-- No entry is lost and none is there twice: place by place, the entries that waited or were
accepted are those that left, in the order in which they left, and those that wait. So batches that
were taken or delivered hold entries in the order in which these were accepted. A delivered batch is
what its readers got, entries are evicted only where there is no room and before any that stay, and
an entry that is rejected leaves the log as it was. -/
theorem entries_conserved (p : Pipeline) (steps : List LogStep) :
    p.pending ++ along accepted p steps =
      (along departed p steps).flatMap Departure.entries ++ (p.after steps).pending ∧
    ((along departed p steps).flatMap Departure.handed ++ (p.after steps).pending).Sublist
      (p.pending ++ along accepted p steps) ∧
    (p.after steps).deliveries.toList =
      p.deliveries.toList ++ (along departed p steps).flatMap Departure.deliveries ∧
    (∀ (q : Pipeline) s es, .evicted es ∈ q.departed s →
      q.pending ++ q.accepted s = es ++ (q.perform s).pending ∧ q.Evicts s es) ∧
    ∀ (q : Pipeline) level event payload,
      (q.append level event payload).1 = false → (q.append level event payload).2 = q := by
  have hrun := p.run_conserves steps
  refine ⟨hrun, ?_, p.deliveries_after steps, fun q s es h => ?_,
    fun q level event payload h => ?_⟩
  · rw [hrun]
    exact (handed_sublist _).append_right _
  · obtain ⟨hd, he⟩ := departed_of_evicted h
    have hq := q.perform_conserves s
    rw [hd, List.flatMap_singleton] at hq
    exact ⟨hq, he⟩
  · cases ha : q.level.allows level with
    | true => rw [append_of_allowed ha] at h; cases h
    | false => rw [append_of_not_allowed ha]

theorem entries_conserved_at_limit :
    let p : Pipeline := { ring := Ring.empty 2 }
    let say (text : String) : LogStep := .message .info text
    let entry (text : String) : Entry := ⟨0, .message, .description text⟩
    let full := p.after [say "a", say "b"]
    let steps :=
      [say "a", say "b", say "c", .take, .message .debug "d", say "e", say "f", .setLimit 1]
    (along departed p steps).map Departure.entries =
      [[], [], [entry "a"], [entry "b", entry "c"], [], [], [entry "e"]] ∧
    p.pending ++ along accepted p steps =
      [entry "a", entry "b", entry "c", entry "e"] ++ [entry "f"] ∧
    full.pending ++ [entry "c"] = [entry "a"] ++ (full.perform (say "c")).pending ∧
    (p.append .debug .message (.description "d")).2 = p := by
  intro p say entry full steps
  obtain ⟨hrun, -, -, hevicted, hrejected⟩ := entries_conserved p steps
  have hd : (along departed p steps).flatMap Departure.entries =
    [entry "a", entry "b", entry "c", entry "e"] := by decide +kernel
  have hp : (p.after steps).pending = [entry "f"] := by decide +kernel
  rw [hd, hp] at hrun
  have hfull : .evicted [entry "a"] ∈ full.departed (say "c") := List.mem_singleton.2 rfl
  refine ⟨by decide +kernel, hrun, (hevicted full (say "c") _ hfull).1, ?_⟩
  exact hrejected p .debug .message (.description "d") rfl

end Pipeline
end SocksGateway
