import SocksGateway.Proofs.Log.Threads

namespace SocksGateway

namespace Ring

theorem length_push {α : Type} (r : Ring α) (a : α) :
    (r.push a).entries.length = min r.limit (r.entries.length + 1) := by
  have := r.size_le
  have := r.limit_pos
  rw [entries_push, List.length_append, List.length_drop, List.length_singleton, length_entries]
  unfold evicted
  omega

end Ring

namespace Pipeline

/-- What an event brings into the log, if the threshold lets it pass. -/
def arriving (p : Pipeline) (level : Level) (event : EventKind) (payload : Payload) : List Entry :=
  p.arrival (p.level.allows level) event payload

/-- A log that gained entries: the newest of all that there were and came, as many as there is room
for. -/
structure Gains (p : Pipeline) (es : List Entry) (q : Pipeline) : Prop where
  level : q.level = p.level
  clock : q.clock = p.clock
  limit : q.limit = p.limit
  subscribers : q.subscribers = p.subscribers
  deliveries : q.deliveries = p.deliveries
  suffix : q.pending <:+ p.pending ++ es
  length : q.pending.length = min p.limit (p.pending.length + es.length)

namespace Gains

theorem pending_eq {p q : Pipeline} {es : List Entry} (h : p.Gains es q) :
    q.pending = (p.pending ++ es).drop ((p.pending ++ es).length - p.limit) := by
  have hlength := h.length
  rw [List.suffix_iff_eq_drop.1 h.suffix, hlength, List.length_append]
  congr 1
  omega

theorem refl (p : Pipeline) : p.Gains [] p where
  level := rfl
  clock := rfl
  limit := rfl
  subscribers := rfl
  deliveries := rfl
  suffix := (List.append_nil p.pending).symm ▸ List.suffix_refl _
  length := by
    have hsize : p.pending.length = p.ring.size := p.ring.length_entries
    have hle : p.ring.size ≤ p.limit := p.ring.size_le
    show p.pending.length = min p.limit (p.pending.length + 0)
    omega

theorem remark (p : Pipeline) (severity : Severity) (text : String) :
    p.Gains [] (p.diagnose severity text) :=
  ⟨rfl, rfl, rfl, rfl, rfl, (refl p).suffix, (refl p).length⟩

theorem trans {p q r : Pipeline} {es fs : List Entry} (h : p.Gains es q) (h' : q.Gains fs r) :
    p.Gains (es ++ fs) r where
  level := h'.level.trans h.level
  clock := h'.clock.trans h.clock
  limit := h'.limit.trans h.limit
  subscribers := h'.subscribers.trans h.subscribers
  deliveries := h'.deliveries.trans h.deliveries
  suffix := by
    rw [← List.append_assoc]
    obtain ⟨front, hf⟩ := h.suffix
    exact h'.suffix.trans ⟨front, by rw [← List.append_assoc, hf]⟩
  length := by
    rw [h'.length, h.length, h.limit, List.length_append]
    omega

theorem arriving {p q : Pipeline} {es : List Entry} (h : p.Gains es q) (level : Level)
    (event : EventKind) (payload : Payload) :
    q.arriving level event payload = p.arriving level event payload := by
  unfold Pipeline.arriving arrival entry
  rw [h.level, h.clock]

end Gains

theorem onMirror_level_clock (p : Pipeline) (agent : Agent)
    (act : Mirror → FileTree → Mirror.Outcome) :
    (p.onMirror agent act).level = p.level ∧ (p.onMirror agent act).clock = p.clock := by
  unfold onMirror; split <;> exact ⟨rfl, rfl⟩

theorem gains_accept (p : Pipeline) (e : Entry) : p.Gains [e] (p.accept e) where
  level := (p.onMirror_level_clock _ _).1
  clock := (p.onMirror_level_clock _ _).2
  limit := by
    show (p.onMirror .caller (·.record · e)).ring.limit = p.ring.limit
    rw [onMirror_ring]
  subscribers := p.onMirror_subscribers _ _
  deliveries := p.onMirror_deliveries _ _
  suffix := p.pending_accept e
  length := by
    simp only [accept, pending, onMirror_ring]
    exact p.ring.length_push e

theorem gains_append (p : Pipeline) (level : Level) (event : EventKind) (payload : Payload) :
    p.Gains (p.arriving level event payload) (p.append level event payload).2 := by
  cases h : p.level.allows level with
  | false =>
    rw [append_of_not_allowed h, arriving, h]
    exact .refl p
  | true =>
    rw [append_of_allowed h, arriving, h]
    exact p.gains_accept _

end Pipeline

end SocksGateway
