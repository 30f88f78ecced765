import SocksGateway.Proofs.Gateway.Sharing

/-!
The references of a process to its gateways. Every gateway is kept with the count of the references
to it and ends when the count falls to zero; the slot of the process remembers the newest without
counting as a holder. Whatever is done, all references are to one gateway, which is the shared one,
and every gateway before it has ended once.
-/
namespace SocksGateway

/-- A gateway with the count of the references to it, and how often it was ended. -/
structure Allocation where
  gateway : Gateway
  references : Nat := 0
  endings : Nat := 0

namespace Allocation

def retain (a : Allocation) : Allocation := { a with references := a.references + 1 }

def drop (a : Allocation) : Allocation :=
  if a.references = 1 then ⟨a.gateway.finish, 0, a.endings + 1⟩
  else { a with references := a.references - 1 }

def next (a : Allocation) (s : Step) : Allocation := { a with gateway := a.gateway.next s }

end Allocation

/-- All gateways that were ever made, the one that the slot remembers, and which of them each holder
refers to. -/
structure Process where
  heap : List Allocation := []
  slot : Option Nat := none
  reference : String → Option Nat := fun _ => none

namespace Process

/-- What the slot remembers, unless it has ended. -/
def upgrade (p : Process) : Option Nat :=
  p.slot.filter fun i => (p.heap[i]?).any fun a => a.references ≠ 0

def drop (p : Process) (i : Nat) : Process := { p with heap := p.heap.modify i Allocation.drop }

def refer (p : Process) (holder : String) (i : Nat) : Process :=
  let p' : Process :=
    { p with
      heap := p.heap.modify i Allocation.retain
      reference := fun h => if h = holder then some i else p.reference h }
  match p.reference holder with
  | none => p'
  | some old => p'.drop old

def forget (p : Process) (holder : String) : Process :=
  match p.reference holder with
  | none => p
  | some i =>
    Process.drop { p with reference := fun h => if h = holder then none else p.reference h } i

def allocate (p : Process) (g : Gateway) : Process :=
  { p with heap := p.heap ++ [{ gateway := g }], slot := some p.heap.length }

def obey (p : Process) : SharedCall → Process
  | .acquire holder o relay files =>
    match p.upgrade with
    | some i => p.refer holder i
    | none => (p.allocate (.create o relay files)).refer holder p.heap.length
  | .current holder =>
    match p.upgrade with
    | some i => p.refer holder i
    | none => p
  | .share holder other =>
    match p.reference holder with
    | some i => p.refer other i
    | none => p
  | .release holder => p.forget holder
  | .operate holder op =>
    match p.reference holder with
    | some i => { p with heap := p.heap.modify i (·.next (.call op)) }
    | none => p
  | .background change =>
    { p with heap := p.heap.map fun a => if a.references = 0 then a else a.next (.logging change) }

def after (p : Process) (calls : List SharedCall) : Process := calls.foldl obey p

/-- One gateway is referred to by all holders, and by the slot; those before it have ended, once
each. -/
structure Agrees (ended : List Gateway) (s : SharedGateway) (p : Process) : Prop where
  heap : p.heap = ended.map (⟨·, 0, 1⟩) ++
    (s.gateway.map (⟨·, s.holders.length, 0⟩)).toList
  slot : p.slot = if p.heap.length = 0 then none else some (p.heap.length - 1)
  reference (holder : String) : p.reference holder =
    if holder ∈ s.holders then some ended.length else none

theorem modify_length_append {α : Type} (as : List α) (a : α) (f : α → α) :
    (as ++ [a]).modify as.length f = as ++ [f a] := by
  induction as with
  | nil => rfl
  | cons b as ih => exact congrArg (b :: ·) ih

section
variable {ended : List Gateway} {s : SharedGateway} {p : Process}

theorem Agrees.append_nil (h : Agrees ended s p) : Agrees (ended ++ []) s p := by
  rw [List.append_nil]
  exact h

theorem Agrees.heap_of_live (h : Agrees ended s p) {g : Gateway} (hg : s.gateway = some g) :
    p.heap = ended.map (⟨·, 0, 1⟩) ++ [⟨g, s.holders.length, 0⟩] := by
  rw [h.heap, hg]
  rfl

theorem Agrees.slot_of_live (h : Agrees ended s p) {g : Gateway} (hg : s.gateway = some g) :
    p.slot = some ended.length := by
  rw [h.slot, h.heap_of_live hg]
  simp

theorem Agrees.modify (h : Agrees ended s p) {g : Gateway} (hg : s.gateway = some g)
    (f : Allocation → Allocation) :
    p.heap.modify ended.length f =
      ended.map (⟨·, 0, 1⟩) ++ [f ⟨g, s.holders.length, 0⟩] := by
  have hlength : ended.length = (ended.map fun g => (⟨g, 0, 1⟩ : Allocation)).length :=
    List.length_map _ |>.symm
  rw [h.heap_of_live hg, hlength, modify_length_append]

theorem Agrees.of_last (h : Agrees ended s p) {g g' : Gateway} (hg : s.gateway = some g)
    {holders : List String} {reference : String → Option Nat}
    (href : ∀ holder, reference holder = if holder ∈ holders then some ended.length else none)
    {f : Allocation → Allocation}
    (hf : f ⟨g, s.holders.length, 0⟩ = ⟨g', holders.length, 0⟩) :
    Agrees ended ⟨holders, some g'⟩
      { p with heap := p.heap.modify ended.length f, reference } := by
  refine ⟨(h.modify hg f).trans (by rw [hf]; rfl), ?_, href⟩
  rw [List.length_modify]
  exact h.slot

theorem upgrade_of_live (h : Agrees ended s p) (hs : s.Held) {g : Gateway}
    (hg : s.gateway = some g) :
    p.upgrade = some ended.length := by
  have hcount : s.holders.length ≠ 0 := fun hn => hs.ne_nil hg (List.length_eq_zero_iff.1 hn)
  have hlast : p.heap[ended.length]? = some ⟨g, s.holders.length, 0⟩ := by
    rw [h.heap_of_live hg]
    simp
  rw [upgrade, h.slot_of_live hg, Option.filter_some, hlast]
  simpa using hcount

theorem upgrade_of_empty (h : Agrees ended {} p) : p.upgrade = none := by
  have hheap : p.heap = ended.map (⟨·, 0, 1⟩) := h.heap.trans (List.append_nil _)
  rw [upgrade, h.slot, hheap]
  rcases List.eq_nil_or_concat ended with rfl | ⟨front, last, rfl⟩
  · rfl
  · simp

theorem Agrees.refer (h : Agrees ended s p) {g : Gateway} (hg : s.gateway = some g)
    (holder : String) :
    Agrees ended { s with holders := s.hold holder } (p.refer holder ended.length) := by
  have href : ∀ other, (if other = holder then some ended.length else p.reference other) =
      if other ∈ s.hold holder then some ended.length else none := by
    intro other
    by_cases he : other = holder
    · simp [he]
    · simp [he, h.reference]
  rw [hg]
  by_cases hm : holder ∈ s.holders
  · have hold : s.hold holder = s.holders := if_pos hm
    have hcount : s.holders.length ≠ 0 :=
      fun hn => List.ne_nil_of_mem hm (List.length_eq_zero_iff.1 hn)
    have hrefer : p.refer holder ended.length =
        { p with
          heap := p.heap.modify ended.length (Allocation.drop ∘ Allocation.retain)
          reference :=
            fun other => if other = holder then some ended.length else p.reference other } := by
      rw [← List.modify_modify_eq, Process.refer, h.reference, if_pos hm]
      rfl
    rw [hrefer]
    refine h.of_last hg href ?_
    simp [Allocation.retain, Allocation.drop, hcount, hold]
  · have hold : s.hold holder = s.holders ++ [holder] := if_neg hm
    have hrefer : p.refer holder ended.length =
        { p with
          heap := p.heap.modify ended.length Allocation.retain
          reference :=
            fun other => if other = holder then some ended.length else p.reference other } := by
      rw [Process.refer, h.reference, if_neg hm]
    rw [hrefer]
    refine h.of_last hg href ?_
    rw [hold, List.length_append]
    rfl

theorem Agrees.allocate (h : Agrees ended {} p) (g : Gateway) :
    Agrees ended ⟨[], some g⟩ (p.allocate g) := by
  have hheap : p.heap = ended.map (⟨·, 0, 1⟩) := h.heap.trans (List.append_nil _)
  refine ⟨?_, ?_, h.reference⟩
  · rw [Process.allocate, hheap]
    rfl
  · rw [Process.allocate]
    simp

theorem Agrees.forget (h : Agrees ended s p) (hs : s.Held) (holder : String) :
    Agrees (ended ++ (s.release holder).ended.toList) (s.release holder).shared
      (p.forget holder) := by
  by_cases hm : holder ∈ s.holders
  · obtain ⟨g, hg⟩ := hs.exists_gateway hm
    have hforget : p.forget holder =
        { p with
          heap := p.heap.modify ended.length Allocation.drop
          reference := fun other => if other = holder then none else p.reference other } := by
      rw [Process.forget, h.reference, if_pos hm]
      rfl
    rw [hforget]
    by_cases hlast : s.holders = [holder]
    · rw [SharedGateway.release_of_last hlast, hg]
      refine ⟨?_, ?_, fun other => ?_⟩
      · show p.heap.modify ended.length Allocation.drop = _
        rw [h.modify hg, hlast]
        simp [Allocation.drop]
      · show p.slot = if (p.heap.modify ended.length Allocation.drop).length = 0 then none else _
        rw [List.length_modify]
        exact h.slot
      · by_cases he : other = holder
        · simp [he]
        · simp [he, h.reference, hlast]
    · rw [SharedGateway.release_of_more hs hm hlast]
      have hone : s.holders.length ≠ 1 := by
        intro hone
        obtain ⟨x, hx⟩ := List.length_eq_one_iff.1 hone
        rw [hx, List.mem_singleton] at hm
        exact hlast (hm ▸ hx)
      refine Agrees.append_nil ?_
      rw [hg]
      refine h.of_last hg (fun other => ?_) ?_
      · by_cases he : other = holder
        · simp [he, hs.distinct.not_mem_erase]
        · simp [he, h.reference, List.mem_erase_of_ne he]
      · simp [Allocation.drop, hone, List.length_erase_of_mem hm]
  · have hforget : p.forget holder = p := by rw [Process.forget, h.reference, if_neg hm]
    rw [SharedGateway.release_of_notMem hs hm, hforget]
    exact h.append_nil

theorem Agrees.next (h : Agrees ended s p) {g : Gateway} (hg : s.gateway = some g) (x : Step) :
    Agrees ended { s with gateway := s.gateway.map (·.next x) }
      { p with heap := p.heap.modify ended.length (·.next x) } := by
  rw [hg]
  exact h.of_last hg h.reference rfl

/-- Each call does to the references what it does to the shared gateway. -/
theorem Agrees.obey (h : Agrees ended s p) (hs : s.Held) (c : SharedCall) :
    Agrees (ended ++ (s.ended? c).toList) (s.obey c) (p.obey c) := by
  cases c with
  | release holder => exact h.forget hs holder
  | acquire holder o relay files =>
    refine Agrees.append_nil ?_
    rw [Process.obey]
    cases hg : s.gateway with
    | none =>
      obtain rfl := hs.eq_empty_of_none hg
      have hlength : p.heap.length = ended.length := by rw [h.heap]; simp
      have hmade := (h.allocate (.create o relay files)).refer rfl holder
      rw [upgrade_of_empty h, SharedGateway.obey_acquire_empty]
      simpa [hlength, SharedGateway.hold] using hmade
    | some g =>
      rw [upgrade_of_live h hs hg, SharedGateway.obey, SharedGateway.acquireWith_of_live hg, ← hg]
      exact h.refer hg holder
  | current holder =>
    refine Agrees.append_nil ?_
    rw [Process.obey, SharedGateway.obey, SharedGateway.current]
    cases hg : s.gateway with
    | none =>
      obtain rfl := hs.eq_empty_of_none hg
      rw [upgrade_of_empty h]
      exact h
    | some g =>
      rw [upgrade_of_live h hs hg, ← hg]
      simp only [hg, Option.isSome_some, if_true]
      rw [← hg]
      exact h.refer hg holder
  | share holder other =>
    refine Agrees.append_nil ?_
    rw [Process.obey, SharedGateway.obey, SharedGateway.share, h.reference]
    by_cases hm : holder ∈ s.holders
    · obtain ⟨g, hg⟩ := hs.exists_gateway hm
      rw [if_pos hm, if_pos hm]
      exact h.refer hg other
    · rw [if_neg hm, if_neg hm]
      exact h
  | operate holder op =>
    refine Agrees.append_nil ?_
    rw [Process.obey, SharedGateway.obey, h.reference]
    by_cases hm : holder ∈ s.holders
    · obtain ⟨g, hg⟩ := hs.exists_gateway hm
      rw [if_pos hm, if_pos hm]
      exact h.next hg (.call op)
    · rw [if_neg hm, if_neg hm]
      exact h
  | background change =>
    refine Agrees.append_nil ?_
    let f (a : Allocation) : Allocation := if a.references = 0 then a else a.next (.logging change)
    -- nothing goes on in the gateways that have ended
    have hended : (ended.map fun g => (⟨g, 0, 1⟩ : Allocation)).map f =
        ended.map (⟨·, 0, 1⟩) := by
      rw [List.map_map]
      rfl
    cases hg : s.gateway with
    | none =>
      obtain rfl := hs.eq_empty_of_none hg
      have hheap : p.heap = ended.map (⟨·, 0, 1⟩) := h.heap.trans (List.append_nil _)
      have hsame : p.obey (.background change) = p := by
        show { p with heap := p.heap.map f } = p
        rw [hheap, hended, ← hheap]
      rw [hsame]
      exact h
    | some g =>
      have hcount : s.holders.length ≠ 0 := fun hn => hs.ne_nil hg (List.length_eq_zero_iff.1 hn)
      have hmap : p.heap.map f = p.heap.modify ended.length (·.next (.logging change)) := by
        rw [h.modify hg, h.heap_of_live hg, List.map_append, hended]
        simp [f, hcount]
      show Agrees ended _ { p with heap := p.heap.map f }
      rw [hmap]
      exact h.next hg (.logging change)

theorem agrees_after (calls : List SharedCall) :
    Agrees (SharedGateway.endings {} calls) (SharedGateway.after {} calls)
      (Process.after {} calls) := by
  induction calls using List.reverseRecOn with
  | nil => exact ⟨rfl, rfl, fun _ => rfl⟩
  | append_singleton calls c ih =>
    have hnext := ih.obey (SharedGateway.held_after calls) c
    have hended : SharedGateway.endings {} (calls ++ [c]) =
        SharedGateway.endings {} calls ++ ((SharedGateway.after {} calls).ended? c).toList := by
      rw [SharedGateway.endings_append, SharedGateway.endings,
        SharedGateway.endings, List.append_nil]
    have hlast : Process.after {} (calls ++ [c]) = (Process.after {} calls).obey c :=
      List.foldl_append
    rw [hended, SharedGateway.after_append, hlast]
    exact hnext

end
end Process

namespace SharedGateway

/-- What holds of the gateway that a process shares after any calls. -/
structure OneGateway (calls : List SharedCall) (s : SharedGateway) : Prop where
  live : s.gateway.isSome = true ↔ s.holders ≠ []
  made {g : Gateway} (hg : s.gateway = some g) : Made calls g
  same {g : Gateway} (hg : s.gateway = some g) (holder : String) :
    (∀ o relay files, s.obey (.acquire holder o relay files) = ⟨s.hold holder, some g⟩) ∧
    s.current holder = (true, ⟨s.hold holder, some g⟩) ∧
    (holder ∈ s.holders → ∀ other, s.share holder other = ⟨s.hold other, some g⟩)
  kept {holder : String} (h : (s.release holder).shared.holders ≠ []) :
    (s.release holder).ended = none ∧
      (s.release holder).shared = ⟨s.holders.erase holder, s.gateway⟩
  last {g : Gateway} (hg : s.gateway = some g) {holder : String}
    (h : (s.release holder).shared.holders = []) :
    (s.release holder).ended = some g.finish ∧ g.Ends g.finish ∧ (s.release holder).shared = {}
  afresh (h : s.holders = []) : s = {} ∧ (∀ holder, s.current holder = (false, {})) ∧
    ∀ holder o relay files, ∃ g,
      s.obey (.acquire holder o relay files) = ⟨[holder], some g⟩ ∧ g.Fresh o relay
  attended {g : Gateway} (hg : s.gateway = some g) (hc : ∀ c ∈ calls, c.Orderly) : g.Attended
  counted : Process.Agrees (endings {} calls) s (Process.after {} calls)

/-- A process has one gateway at a time. As long as anybody holds it, it is the one that whoever
asks for it gets, with the options that it was made with; the last who lets go of it ends it, and
then the next who asks gets one that is new. -/
theorem one_gateway (calls : List SharedCall) : OneGateway calls (after {} calls) := by
  have hs := held_after calls
  constructor
  case live => exact hs.live
  case made => exact made_of_live calls
  case same =>
    intro g hg holder
    refine ⟨fun o relay files => acquireWith_of_live hg holder o relay files, ?_,
      fun hm other => ?_⟩
    · rw [current, hg]
      rfl
    · rw [share, if_pos hm, hg]
  case kept =>
    intro holder h
    rcases release_cases hs holder with ⟨hm, hr⟩ | ⟨-, hr⟩ | ⟨-, -, hr⟩
    · rw [hr, List.erase_of_not_mem hm]
      exact ⟨rfl, rfl⟩
    · rw [hr] at h
      exact absurd rfl h
    · rw [hr]
      exact ⟨rfl, rfl⟩
  case last =>
    intro g hg holder h
    rcases release_cases hs holder with ⟨-, hr⟩ | ⟨-, hr⟩ | ⟨hm, hlast, hr⟩
    · rw [hr] at h
      exact absurd h (hs.ne_nil hg)
    · rw [hr, hg]
      exact ⟨rfl, g.ends_finish, rfl⟩
    · rw [hr] at h
      exact absurd h (erase_ne_nil hm hlast)
  case afresh =>
    intro h
    have hempty := hs.eq_empty h
    rw [hempty]
    refine ⟨rfl, fun holder => rfl, fun holder o relay files => ?_⟩
    exact ⟨_, obey_acquire_empty holder o relay files, Gateway.fresh_create o relay files⟩
  case attended => exact fun hg hc => attended_of_live hc hg
  case counted => exact Process.agrees_after calls

theorem one_gateway_passed_on :
    let calls : List SharedCall :=
      [.acquire "a" { level := .debug } .accepting {},
        .acquire "b" { level := .error } .accepting {},
        .operate "b" .start, .elapse 7 false, .release "a"]
    let s := after {} calls
    s.holders = ["b"] ∧ ∃ g, s.gateway = some g ∧ g.log.level = .debug ∧
      g.log.pending ≠ [] ∧
      (s.release "b").ended = some g.finish ∧ g.finish.log.pending = [] ∧
        (s.release "b").shared = {} := by
  intro calls s
  have h := one_gateway calls
  have hholders : s.holders = ["b"] := by decide +kernel
  have hseen :
      s.gateway.map (fun g => (g.stage, g.log.level, g.log.pending.length,
      g.log.subscribers.length)) =
      some (.started, .debug, 1, 0) := by decide +kernel
  obtain ⟨g, hg⟩ :=
    Option.isSome_iff_exists.1 (h.live.2
    (by rw [show (after {} calls).holders = _ from hholders]; simp))
  rw [show s.gateway = some g from hg, Option.map_some, Option.some.injEq] at hseen
  obtain ⟨hstage, hlevel, hpending, hnobody⟩ : g.stage = .started ∧ g.log.level = .debug ∧
      g.log.pending.length = 1 ∧ g.log.subscribers.length = 0 := by simpa using hseen
  have hlast : (s.release "b").shared.holders = [] := by decide +kernel
  obtain ⟨hended, hends, hempty⟩ := h.last hg hlast
  have hattended : g.Attended := by
    refine h.attended hg fun c hc => ?_
    simp only [calls, List.mem_cons, List.not_mem_nil, or_false] at hc
    rcases hc with rfl | rfl | rfl | rfl | rfl
    case inr.inr.inr.inl => exact SharedCall.orderly_elapse 7 false
    all_goals trivial
  obtain ⟨w, -, hbatch, hack⟩ := hends.batch hstage hattended
  have hdone : g.acknowledges w = true := hack fun x hx => by
    rw [List.length_eq_zero_iff.1 hnobody] at hx
    cases hx
  refine ⟨hholders, g, hg, hlevel, ?_, hended, (hbatch hdone).1, hempty⟩
  intro hnone
  rw [hnone] at hpending
  cases hpending

end SharedGateway
end SocksGateway
