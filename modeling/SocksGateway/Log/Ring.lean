/-!
Rings: at most `limit` values, oldest first. A value pushed onto a full ring takes the place of the
oldest. The values lie in two halves, so that a push does not go through all of them; `entries` is
the view that the statements are about.
-/
namespace SocksGateway

/-- The older half has its oldest value in front, the newer half its newest. -/
structure Ring (α : Type) where
  older : List α
  newer : List α
  size : Nat
  limit : Nat
  limit_pos : 0 < limit
  size_eq : size = older.length + newer.length
  size_le : size ≤ limit

namespace Ring
variable {α : Type}

def entries (r : Ring α) : List α := r.older ++ r.newer.reverse

/-- A limit of zero counts as one. -/
def empty (limit : Nat) : Ring α := ⟨[], [], 0, max limit 1, by omega, rfl, by omega⟩

def isEmpty (r : Ring α) : Bool := r.size == 0

def evicted (r : Ring α) : Nat := r.size + 1 - r.limit

def tail (r : Ring α) : Ring α where
  older := if r.older.isEmpty then r.newer.reverse.tail else r.older.tail
  newer := if r.older.isEmpty then [] else r.newer
  size := r.size - 1
  limit := r.limit
  limit_pos := r.limit_pos
  size_eq := by
    have := r.size_eq
    cases h : r.older <;> simp_all
  size_le := by have := r.size_le; omega

def room (r : Ring α) : Ring α := if r.size < r.limit then r else r.tail

@[simp] theorem room_limit (r : Ring α) : r.room.limit = r.limit := by
  unfold room; split <;> rfl

theorem size_room_lt (r : Ring α) : r.room.size < r.limit := by
  have := r.limit_pos
  have := r.size_le
  unfold room
  split
  · assumption
  · simp only [tail]; omega

def push (r : Ring α) (a : α) : Ring α where
  older := r.room.older
  newer := a :: r.room.newer
  size := r.room.size + 1
  limit := r.limit
  limit_pos := r.limit_pos
  size_eq := by have := r.room.size_eq; simp only [List.length_cons]; omega
  size_le := r.size_room_lt

/-- The oldest entries beyond the new limit are dropped. -/
def setLimit (r : Ring α) (limit : Nat) : Ring α where
  older := r.entries.drop (r.size - max limit 1)
  newer := []
  size := r.size - (r.size - max limit 1)
  limit := max limit 1
  limit_pos := by omega
  size_eq := by simp only [entries, List.length_drop, List.length_append, List.length_reverse,
    List.length_nil, r.size_eq]; omega
  size_le := by omega

def clear (r : Ring α) : Ring α := ⟨[], [], 0, r.limit, r.limit_pos, rfl, by omega⟩

@[simp] theorem length_entries (r : Ring α) : r.entries.length = r.size := by
  simp [entries, r.size_eq]

theorem evicted_le_one (r : Ring α) : r.evicted ≤ 1 := by
  have := r.size_le
  unfold evicted
  omega

theorem evicted_eq_one_iff (r : Ring α) : r.evicted = 1 ↔ r.size = r.limit := by
  have := r.size_le
  unfold evicted
  omega

theorem entries_tail (r : Ring α) : r.tail.entries = r.entries.tail := by
  cases h : r.older <;> simp [tail, entries, h]

theorem entries_room (r : Ring α) : r.room.entries = r.entries.drop r.evicted := by
  have := r.size_le
  unfold room
  split
  · have : r.evicted = 0 := by unfold evicted; omega
    simp [this]
  · have : r.evicted = 1 := r.evicted_eq_one_iff.2 (by omega)
    simp [this, entries_tail]

theorem entries_push (r : Ring α) (a : α) :
    (r.push a).entries = r.entries.drop r.evicted ++ [a] := by
  rw [← entries_room]
  simp [push, entries]

theorem push_entries_of_lt {r : Ring α} (h : r.size < r.limit) (a : α) :
    (r.push a).entries = r.entries ++ [a] := by
  have : r.evicted = 0 := by unfold evicted; omega
  simp [entries_push, this]

theorem push_entries_of_full {r : Ring α} (h : r.size = r.limit) (a : α) :
    (r.push a).entries = r.entries.tail ++ [a] := by
  have : r.evicted = 1 := r.evicted_eq_one_iff.2 h
  simp [entries_push, this]

@[simp] theorem push_limit (r : Ring α) (a : α) : (r.push a).limit = r.limit := rfl

@[simp] theorem setLimit_limit (r : Ring α) (n : Nat) : (r.setLimit n).limit = max n 1 := rfl

@[simp] theorem entries_setLimit (r : Ring α) (n : Nat) :
    (r.setLimit n).entries = r.entries.drop (r.size - max n 1) := by
  simp [setLimit, entries]

@[simp] theorem entries_clear (r : Ring α) : r.clear.entries = [] := rfl

theorem push_entries_suffix (r : Ring α) (a : α) : (r.push a).entries <:+ r.entries ++ [a] := by
  obtain ⟨t, ht⟩ := List.drop_suffix r.evicted r.entries
  exact ⟨t, by rw [entries_push, ← List.append_assoc, ht]⟩

end Ring
end SocksGateway
