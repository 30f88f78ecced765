import Mathlib.Data.List.Induction
import SocksGateway.Proofs.Log.Copy

/-!
Failures in a row. A mirror counts what failed since its last success, records and flushes alike,
and the third failure switches it off. So a flush that succeeds between them keeps a mirror on,
however many records fail.
-/
namespace SocksGateway

/-- A call that came to a mirror's sink, and whether it failed there. -/
structure Trial where
  call : MirrorCall
  failed : Bool
deriving DecidableEq

namespace Trial

/-- The failures since the last success. -/
def streak (ts : List Trial) : Nat := (ts.reverse.takeWhile Trial.failed).length

theorem streak_concat (ts : List Trial) (t : Trial) :
    streak (ts ++ [t]) = if t.failed then streak ts + 1 else 0 := by
  unfold streak
  rw [List.reverse_append, List.reverse_singleton, List.singleton_append]
  cases h : t.failed with
  | true => simp [h]
  | false => simp [h]

theorem le_streak_iff {n : Nat} {ts : List Trial} :
    n ≤ streak ts ↔ ∃ row, row <:+ ts ∧ row.length = n ∧
      ∀ t ∈ row, t.failed = true := by
  induction ts using List.reverseRecOn generalizing n with
  | nil =>
    constructor
    · intro h
      exact ⟨[], List.nil_suffix, (Nat.le_zero.1 h).symm, nofun⟩
    · rintro ⟨row, hs, rfl, -⟩
      rw [List.suffix_nil.1 hs]
      exact Nat.zero_le _
  | append_singleton ts t ih =>
    cases n with
    | zero => exact ⟨fun _ => ⟨[], List.nil_suffix, rfl, nofun⟩, fun _ => Nat.zero_le _⟩
    | succ n =>
      rw [streak_concat]
      constructor
      · intro h
        cases ht : t.failed with
        | false => simp [ht] at h
        | true =>
          have hn : n ≤ streak ts := by simpa [ht] using h
          obtain ⟨row, hs, hlen, hrow⟩ := ih.1 hn
          have hsuffix : row ++ [t] <:+ ts ++ [t] :=
            List.suffix_concat_iff.2 (.inr ⟨row, rfl, hs⟩)
          refine ⟨row ++ [t], hsuffix, by simp [hlen], ?_⟩
          intro u hu
          rcases List.mem_append.1 hu with hu | hu
          · exact hrow u hu
          · rw [List.mem_singleton.1 hu, ht]
      · rintro ⟨row, hs, hlen, hrow⟩
        rcases List.suffix_concat_iff.1 hs with rfl | ⟨row, rfl, hs'⟩
        · cases hlen
        · have ht : t.failed = true := hrow t (by simp)
          have hn : n ≤ streak ts :=
            ih.2 ⟨row, hs', by simpa using hlen, fun u hu => hrow u (List.mem_append_left _ hu)⟩
          simpa [ht] using hn

end Trial

namespace Mirror

/-- What comes to the sink of a call: nothing once the mirror is off. -/
def tried (m : Mirror) (files : FileTree) (c : MirrorCall) : List Trial :=
  if m.disabled then [] else [⟨c, (ask m.sink files c).2.isSome⟩]

def trials (m : Mirror) (files : FileTree) : List MirrorCall → List Trial
  | [] => []
  | c :: calls => m.tried files c ++ (m.act files c).mirror.trials (m.act files c).files calls

theorem tried_of_on {m : Mirror} (h : m.disabled = false) (files : FileTree) (c : MirrorCall) :
    m.tried files c = [⟨c, (ask m.sink files c).2.isSome⟩] :=
  if_neg (by rw [h]; exact Bool.false_ne_true)

def writeCalls (m : Mirror) : Nat :=
  match m.sink with
  | .device d => d.writeCalls
  | .file _ => 0

/-- A mirror that counted these trials. -/
structure Counts (m : Mirror) (ts : List Trial) : Prop where
  failures : m.failures = Trial.streak ts
  disabled : m.disabled = decide (patience ≤ Trial.streak ts)

theorem counts_fresh (sink : Sink) : Counts { sink } [] := ⟨rfl, rfl⟩

theorem Counts.act {m : Mirror} {ts : List Trial} (h : m.Counts ts) (files : FileTree)
    (c : MirrorCall) :
    (m.act files c).mirror.Counts (ts ++ m.tried files c) := by
  obtain ⟨hfailures, hdisabled⟩ := h
  cases hd : m.disabled with
  | true =>
    have htried : m.tried files c = [] := if_pos hd
    rw [act_of_disabled hd, htried, List.append_nil]
    exact ⟨hfailures, hdisabled⟩
  | false =>
    rw [act_of_on hd, tried_of_on hd]
    cases hf : (ask m.sink files c).2 with
    | none => constructor <;> simp [track, Trial.streak_concat, hf, hd, patience]
    | some reason => constructor <;> simp [track, Trial.streak_concat, hf, hd, hfailures]

theorem Counts.acts {m : Mirror} {ts : List Trial} (h : m.Counts ts) (files : FileTree)
    (calls : List MirrorCall) :
    (m.acts files calls).1.Counts (ts ++ m.trials files calls) := by
  induction calls generalizing m ts files with
  | nil =>
    rw [trials, List.append_nil]
    exact h
  | cons c calls ih =>
    rw [trials, ← List.append_assoc]
    exact ih (h.act files c) _

theorem acts_of_disabled {m : Mirror} (h : m.disabled = true) (files : FileTree)
    (calls : List MirrorCall) :
    m.acts files calls = (m, files) ∧ m.trials files calls = [] := by
  induction calls with
  | nil => exact ⟨rfl, rfl⟩
  | cons c calls ih =>
    have hact := act_of_disabled h files c
    have htried : m.tried files c = [] := if_pos h
    rw [acts, trials, hact, htried]
    exact ih

theorem calls_of_trials (m : Mirror) (files : FileTree) (calls : List MirrorCall) :
    ∃ rest, calls = (m.trials files calls).map Trial.call ++ rest ∧
      ((m.acts files calls).1.disabled = false → rest = []) := by
  induction calls generalizing m files with
  | nil => exact ⟨[], rfl, fun _ => rfl⟩
  | cons c calls ih =>
    cases hd : m.disabled with
    | true =>
      obtain ⟨hacts, htrials⟩ := acts_of_disabled hd files (c :: calls)
      refine ⟨c :: calls, by rw [htrials]; rfl, fun h => ?_⟩
      rw [hacts, hd] at h
      cases h
    | false =>
      obtain ⟨rest, hrest, hall⟩ := ih (m.act files c).mirror (m.act files c).files
      refine ⟨rest, ?_, hall⟩
      rw [trials, tried_of_on hd]
      exact congrArg (c :: ·) hrest

section
variable {m : Mirror} {files : FileTree}

theorem trials_eq_append {calls : List MirrorCall} {as bs : List Trial}
    (h : m.trials files calls = as ++ bs) :
    ∃ before later, calls = before ++ later ∧ m.trials files before = as ∧
      (m.acts files before).1.trials (m.acts files before).2 later = bs := by
  induction calls generalizing m files as with
  | nil =>
    obtain ⟨rfl, rfl⟩ := List.append_eq_nil_iff.1 h.symm
    exact ⟨[], [], rfl, rfl, rfl⟩
  | cons c calls ih =>
    cases as with
    | nil => exact ⟨[], c :: calls, rfl, rfl, h⟩
    | cons a as =>
      cases hd : m.disabled with
      | true =>
        rw [(acts_of_disabled hd files _).2] at h
        cases h
      | false =>
        rw [trials, tried_of_on hd] at h
        obtain ⟨rfl, hrest⟩ := List.cons.inj h
        obtain ⟨before, later, hcalls, has, hbs⟩ := ih hrest
        refine ⟨c :: before, later, congrArg (c :: ·) hcalls, ?_, hbs⟩
        rw [trials, tried_of_on hd, has]
        rfl

/-- Nothing is tried after a third failure in a row. -/
theorem off_of_row {sink : Sink} {calls : List MirrorCall} {before row after : List Trial}
    (h : trials { sink } files calls = before ++ row ++ after) (hlen : patience ≤ row.length)
    (hrow : ∀ t ∈ row, t.failed = true) :
    (acts { sink } files calls).1.disabled = true ∧ after = [] := by
  obtain ⟨front, later, rfl, hfront, hlater⟩ := trials_eq_append h
  have hcounts := (counts_fresh sink).acts files front
  rw [List.nil_append, hfront] at hcounts
  have hstreak : row.length ≤ Trial.streak (before ++ row) :=
    Trial.le_streak_iff.2 ⟨row, List.suffix_append _ _, rfl, hrow⟩
  have hoff : (acts { sink } files front).1.disabled = true := by
    rw [hcounts.disabled]
    exact decide_eq_true (Nat.le_trans hlen hstreak)
  obtain ⟨hacts, htrials⟩ := acts_of_disabled hoff (acts { sink } files front).2 later
  rw [acts_append, hacts, ← hlater]
  exact ⟨hoff, htrials⟩

end

def flushedEach (es : List Entry) : List MirrorCall := es.flatMap fun e => [.record e, .flush]

/-- A record that fails and a flush that succeeds leave the count of failures as it was at first. -/
theorem acts_of_failed_flushed {d : Device} {reason : String} {replies : List WriteReply}
    (hw : d.writes = .failed reason :: replies) (hf : d.flushes = []) (files : FileTree)
    (e : Entry) :
    acts (ofDevice d) files [.record e, .flush] =
      (ofDevice { d with
        writes := replies
        writeCalls := d.writeCalls + 1
        flushCalls := d.flushCalls + 1 }, files) := by
  have hline : e.lineBytes ≠ [] := by simp [Entry.lineBytes_eq]
  obtain ⟨b, bytes, hb⟩ := List.exists_cons_of_ne_nil hline
  simp [acts, act, record, flush, perform, ofDevice, Sink.write, Sink.flush, Device.write,
    Device.flush, hb, hw, hf, Transfer.run, track, patience]

/-- A flush that the device takes after each record keeps a mirror on, though no record is ever
written. -/
theorem on_if_flushed_each {d : Device} {es : List Entry} {reason : String}
    (hw : d.writes = List.replicate es.length (.failed reason)) (hf : d.flushes = [])
    (files : FileTree) :
    (acts (ofDevice d) files (flushedEach es)).1.disabled = false ∧
      (acts (ofDevice d) files (flushedEach es)).1.writeCalls = d.writeCalls + es.length := by
  induction es generalizing d with
  | nil => exact ⟨rfl, rfl⟩
  | cons e es ih =>
    have hround := acts_of_failed_flushed (d := d) hw hf files e
    rw [flushedEach, List.flatMap_cons, acts_append, hround]
    obtain ⟨hon, hcalls⟩ :=
      ih (d := { d with writes := _, writeCalls := _, flushCalls := _ }) rfl hf
    exact ⟨hon, hcalls.trans (Nat.add_right_comm _ 1 _)⟩

/-- Three records failed, and what succeeded between them, if anything, were flushes. -/
def RecordsFailed (ts between : List Trial) : Prop :=
  ∃ before r₁ us r₂ vs r₃ after,
    ts = before ++ (r₁ :: us ++ r₂ :: vs ++ [r₃]) ++ after ∧ between = us ++ vs ∧
    (∀ r ∈ [r₁, r₂, r₃], r.failed = true ∧ r.call ≠ .flush) ∧
      ∀ t ∈ between, t.failed = false → t.call = .flush

/-- A mirror goes off exactly when the last three calls that came to its sink failed, records or
flushes, and for good: what is asked of it then does nothing. So three records that fail switch it
off unless a flush between them succeeds. -/
theorem off_iff_three_failed_in_a_row (sink : Sink) (files : FileTree) (calls : List MirrorCall) :
    let m : Mirror := { sink }
    let ts := m.trials files calls
    let q := m.acts files calls
    (∃ rest, calls = ts.map Trial.call ++ rest ∧ (q.1.disabled = false → rest = [])) ∧
    (q.1.disabled = true ↔ ∃ row, row <:+ ts ∧ row.length = patience ∧
      ∀ t ∈ row, t.failed = true) ∧
    (∀ between, RecordsFailed ts between →
      q.1.disabled = true ∨ ∃ t ∈ between, t.call = .flush ∧ t.failed = false) ∧
    (q.1.disabled = true → ∀ later, m.acts files (calls ++ later) = q) := by
  intro m ts q
  have hcounts : q.1.Counts ts := (counts_fresh sink).acts files calls
  refine ⟨m.calls_of_trials files calls, ?_, ?_, ?_⟩
  · rw [hcounts.disabled, decide_eq_true_iff]
    exact Trial.le_streak_iff
  · rintro between ⟨before, r₁, us, r₂, vs, r₃, after, hts, rfl, hrecords, hflushes⟩
    by_cases hall : ∀ t ∈ us ++ vs, t.failed = true
    · refine .inl (off_of_row hts (by simp [patience]; omega) ?_).1
      intro t ht
      by_cases hr : t ∈ [r₁, r₂, r₃]
      · exact (hrecords t hr).1
      · exact hall t (by simp at ht hr ⊢; tauto)
    · push Not at hall
      obtain ⟨t, ht, hok⟩ := hall
      have hok : t.failed = false := by simpa using hok
      exact .inr ⟨t, ht, hflushes t ht hok, hok⟩
  · intro hoff later
    exact (m.acts_append files calls later).trans (acts_of_disabled hoff _ later).1

theorem off_after_three_failed_records :
    let e : Entry := ⟨0, .message, .description "a"⟩
    let m : Mirror := { sink := .device { writes := List.replicate 3 (.failed "disk full") } }
    let q := m.acts {} [.record e, .record e, .record e]
    q.1.disabled = true ∧
      m.acts {} ([.record e, .record e, .record e] ++ [.flush, .record e]) = q := by
  intro e m q
  have h := off_iff_three_failed_in_a_row m.sink {} [.record e, .record e, .record e]
  have hfailed : RecordsFailed (m.trials {} [.record e, .record e, .record e]) [] :=
    ⟨[], ⟨.record e, true⟩, [], ⟨.record e, true⟩, [], ⟨.record e, true⟩,
      [], by decide +kernel, rfl, by simp, nofun⟩
  have hoff : q.1.disabled = true := (h.2.2.1 [] hfailed).resolve_right (by simp)
  exact ⟨hoff, h.2.2.2 hoff [.flush, .record e]⟩

/-- Three records failed, and the fourth is written to the device all the same. -/
theorem on_after_three_failed_records :
    let e : Entry := ⟨0, .message, .description "a"⟩
    let m : Mirror := { sink := .device { writes := List.replicate 3 (.failed "disk full") } }
    let calls : List MirrorCall := [.record e, .flush, .record e, .flush, .record e]
    RecordsFailed (m.trials {} calls) [⟨.flush, false⟩, ⟨.flush, false⟩] ∧
      (m.acts {} calls).1.disabled = false ∧ (m.acts {} calls).1.writeCalls = 3 ∧
      (m.acts {} (calls ++ [.record e])).1.writeCalls = 4 := by
  intro e m calls
  refine ⟨?_, by decide +kernel, by decide +kernel, by decide +kernel⟩
  refine ⟨[], ⟨.record e, true⟩, [⟨.flush, false⟩], ⟨.record e, true⟩,
    [⟨.flush, false⟩], ⟨.record e, true⟩, [],
    by decide +kernel, rfl, by simp, by simp⟩

end Mirror
end SocksGateway
