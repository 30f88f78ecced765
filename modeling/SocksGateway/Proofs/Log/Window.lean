import SocksGateway.Log.Ring

/-!
Rings beside windows. A window is a plain list with a limit: what comes goes to its end, and
whatever is then beyond the limit is dropped from its front. A ring answers every call as the window
does that had the same calls.
-/
namespace SocksGateway

inductive RingCall (α : Type)
  | push (a : α)
  | setLimit (limit : Nat)
  | take

/-- What a call returns: the number of values that a push removed, or the values that were taken. -/
inductive RingAnswer (α : Type)
  | removed (count : Nat)
  | done
  | taken (values : List α)
deriving DecidableEq

structure Window (α : Type) where
  kept : List α
  limit : Nat

namespace Window
variable {α : Type}

def empty (limit : Nat) : Window α := ⟨[], max limit 1⟩

/-- Drops from the front, down to the limit. -/
def trim (w : Window α) : Window α := { w with kept := w.kept.drop (w.kept.length - w.limit) }

def perform (w : Window α) : RingCall α → Window α
  | .push a => trim { w with kept := w.kept ++ [a] }
  | .setLimit n => trim { w with limit := max n 1 }
  | .take => { w with kept := [] }

def answer (w : Window α) : RingCall α → RingAnswer α
  | .push a => .removed (w.kept.length + 1 - (w.perform (.push a)).kept.length)
  | .setLimit _ => .done
  | .take => .taken w.kept

def after (w : Window α) (calls : List (RingCall α)) : Window α := calls.foldl perform w

theorem trim_of_le {w : Window α} (h : w.kept.length ≤ w.limit) : w.trim = w := by
  unfold trim
  rw [Nat.sub_eq_zero_of_le h, List.drop_zero]

theorem trim_append_trim (w : Window α) (as : List α) :
    trim { w with kept := w.trim.kept ++ as } = trim { w with kept := w.kept ++ as } := by
  have hsplit : w.trim.kept ++ as = (w.kept ++ as).drop (w.kept.length - w.limit) :=
    (List.drop_append_of_le_length (Nat.sub_le _ _)).symm
  unfold trim at hsplit ⊢
  simp only [hsplit, List.drop_drop, List.length_drop, List.length_append]
  congr 2
  omega

theorem after_pushes {w : Window α} (h : w.kept.length ≤ w.limit) (as : List α) :
    w.after (as.map .push) = trim { w with kept := w.kept ++ as } := by
  induction as generalizing w with
  | nil => rw [List.append_nil]; exact (trim_of_le h).symm
  | cons a as ih =>
    have hroom : (w.perform (.push a)).kept.length ≤ (w.perform (.push a)).limit := by
      simp only [perform, trim, List.length_drop]
      omega
    have hstep : w.after ((a :: as).map .push) = (w.perform (.push a)).after (as.map .push) := rfl
    rw [hstep, ih hroom]
    refine (trim_append_trim { w with kept := w.kept ++ [a] } as).trans ?_
    rw [List.append_assoc, List.singleton_append]

end Window

namespace Ring
variable {α : Type}

def perform (r : Ring α) : RingCall α → Ring α
  | .push a => r.push a
  | .setLimit n => r.setLimit n
  | .take => r.clear

def answer (r : Ring α) : RingCall α → RingAnswer α
  | .push _ => .removed r.evicted
  | .setLimit _ => .done
  | .take => .taken r.entries

def after (r : Ring α) (calls : List (RingCall α)) : Ring α := calls.foldl perform r

/-- The window that shows what a ring holds. -/
def window (r : Ring α) : Window α := ⟨r.entries, r.limit⟩

theorem evicted_le_size (r : Ring α) : r.evicted ≤ r.size := by
  have := r.limit_pos
  unfold evicted
  omega

theorem window_push (r : Ring α) (a : α) : (r.push a).window = r.window.perform (.push a) := by
  have hlength : (r.entries ++ [a]).length - r.limit = r.evicted := by
    rw [List.length_append, length_entries]
    rfl
  have hle : r.evicted ≤ r.entries.length := r.length_entries ▸ r.evicted_le_size
  simp only [window, Window.perform, Window.trim, entries_push, push_limit, hlength,
    List.drop_append_of_le_length hle]

theorem window_perform (r : Ring α) (c : RingCall α) :
    (r.perform c).window = r.window.perform c := by
  cases c with
  | push a => exact r.window_push a
  | setLimit n =>
    simp only [perform, window, Window.perform, Window.trim, entries_setLimit,
      setLimit_limit, length_entries]
  | take => rfl

theorem entries_take_push (r : Ring α) (a : α) :
    r.entries ++ [a] = r.entries.take r.evicted ++ (r.push a).entries ∧
      (r.entries.take r.evicted).length = r.evicted := by
  have hle : r.evicted ≤ r.entries.length := r.length_entries ▸ r.evicted_le_size
  rw [entries_push, ← List.append_assoc, List.take_append_drop]
  exact ⟨rfl, List.length_take_of_le hle⟩

theorem size_push (r : Ring α) (a : α) : (r.push a).size + r.evicted = r.size + 1 := by
  obtain ⟨hsplit, hgone⟩ := r.entries_take_push a
  have hlength := congrArg List.length hsplit
  rw [List.length_append, List.length_append, hgone, length_entries, length_entries,
    List.length_singleton] at hlength
  omega

theorem answer_window (r : Ring α) (c : RingCall α) : r.answer c = r.window.answer c := by
  cases c with
  | push a =>
    have hkept : (r.window.perform (.push a)).kept.length = (r.push a).size := by
      rw [← window_push]
      exact (r.push a).length_entries
    have hsize := r.size_push a
    have hentries : r.window.kept.length = r.size := r.length_entries
    rw [answer, Window.answer, hkept, hentries]
    congr 1
    omega
  | setLimit n => rfl
  | take => rfl

theorem window_after (r : Ring α) (calls : List (RingCall α)) :
    (r.after calls).window = r.window.after calls := by
  induction calls generalizing r with
  | nil => rfl
  | cons c calls ih =>
    refine (ih (r.perform c)).trans ?_
    rw [window_perform]
    rfl

/-- Pushed onto nothing, the newest values stay, as many as there is room for. -/
theorem entries_after_pushes {r : Ring α} (h : r.entries = []) (as : List α) :
    (r.after (as.map .push)).entries = as.drop (as.length - r.limit) := by
  have hroom : r.window.kept.length ≤ r.window.limit := r.length_entries ▸ r.size_le
  have hafter := (r.window_after (as.map .push)).trans (Window.after_pushes hroom as)
  have hkept := congrArg Window.kept hafter
  simpa [window, Window.trim, h] using hkept

theorem suffix_after_pushes {r : Ring α} (h : r.entries = []) (as : List α) :
    (r.after (as.map .push)).entries <:+ as ∧
      (r.after (as.map .push)).entries.length = min as.length r.limit := by
  rw [entries_after_pushes h]
  refine ⟨List.drop_suffix _ _, ?_⟩
  rw [List.length_drop]
  omega

/-- Whatever was called before, a ring holds what the window does that had the same calls, and
answers the next call alike. It holds at least one value and never more than its limit; a push onto
a full ring removes one value, any other none; and what is pushed onto an empty ring stays, but for
the oldest values beyond the limit. -/
theorem window_of_history (limit : Nat) (calls : List (RingCall α)) :
    let r := (empty limit).after calls
    let w := (Window.empty limit).after calls
    (r.entries = w.kept ∧ r.size = w.kept.length ∧
      r.isEmpty = w.kept.isEmpty ∧ r.limit = w.limit) ∧
    (∀ c, r.answer c = w.answer c) ∧
    (1 ≤ r.limit ∧ r.size ≤ r.limit) ∧
    (∀ a, ∃ gone, r.entries ++ [a] = gone ++ (r.perform (.push a)).entries ∧
      r.answer (.push a) = .removed gone.length ∧ gone.length ≤ 1 ∧
        (gone.length = 1 ↔ r.size = r.limit)) ∧
    (∀ as, (r.after (.take :: as.map .push)).entries <:+ as ∧
      (r.after (.take :: as.map .push)).entries.length = min as.length r.limit) ∧
    ∀ as : List α, ((empty limit).after (as.map .push)).entries <:+ as ∧
      ((empty limit).after (as.map .push)).entries.length = min as.length (max limit 1) := by
  intro r w
  have hw : r.window = w := (empty limit).window_after calls
  have hentries : r.entries = w.kept := congrArg Window.kept hw
  have hsize : r.size = w.kept.length := hentries ▸ r.length_entries.symm
  have hempty : r.isEmpty = w.kept.isEmpty := by
    rw [isEmpty, hsize]
    cases w.kept <;> rfl
  refine ⟨⟨hentries, hsize, hempty, congrArg Window.limit hw⟩,
    fun c => hw ▸ r.answer_window c,
    ⟨r.limit_pos, r.size_le⟩, fun a => ?_, fun as => ?_, fun as => ?_⟩
  · obtain ⟨hsplit, hlength⟩ := r.entries_take_push a
    refine ⟨_, hsplit, congrArg RingAnswer.removed hlength.symm, ?_⟩
    rw [hlength]
    exact ⟨r.evicted_le_one, r.evicted_eq_one_iff⟩
  · exact suffix_after_pushes (r := r.clear) rfl as
  · exact suffix_after_pushes (r := empty limit) rfl as

end Ring
end SocksGateway
