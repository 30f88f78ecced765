import SocksGateway.Proofs.Log.Streaks
import SocksGateway.Proofs.Log.Unmirrored

/-!
What mirrors report. Of the calls that a mirror carried out, a spell is a number of failures in a
row that no other failure stands next to. A mirror reports a spell once, at its first failure, and
that it goes off at the third.
-/
namespace SocksGateway

/-- A call that a mirror carried out, what went wrong with it, if anything did, and what was
reported then. -/
structure Deed where
  call : MirrorCall
  failure : Option String
  reports : List Diagnostic
deriving DecidableEq

namespace Deed

def failed (d : Deed) : Bool := d.failure.isSome

def trial (d : Deed) : Trial := ⟨d.call, d.failed⟩

/-- Failures in a row, before and after which there is a success or nothing. -/
structure Spell (ds before row after : List Deed) : Prop where
  eq : ds = before ++ row ++ after
  nonempty : row ≠ []
  failed : ∀ d ∈ row, d.failed = true
  starts : ∀ d ∈ before.getLast?, d.failed = false
  ends : ∀ d ∈ after.head?, d.failed = false

end Deed

namespace Trial

theorem streak_append {ts row : List Trial} (h : ∀ t ∈ row, t.failed = true) :
    streak (ts ++ row) = streak ts + row.length := by
  induction row using List.reverseRecOn with
  | nil => simp
  | append_singleton row t ih =>
    have hrow := ih fun u hu => h u (List.mem_append_left _ hu)
    have ht : t.failed = true := h t (by simp)
    rw [← List.append_assoc, streak_concat, if_pos ht, hrow, List.length_append,
      List.length_singleton, Nat.add_assoc]

theorem streak_eq_zero {ts : List Trial} (h : ∀ t ∈ ts.getLast?, t.failed = false) :
    streak ts = 0 := by
  cases ts using List.reverseRecOn with
  | nil => rfl
  | append_singleton ts t =>
    have ht : t.failed = false := h t (by simp)
    rw [streak_concat, ht]
    rfl

end Trial

namespace FileSink

theorem path_flush (s : FileSink) (files : FileTree) : (s.flush files).1.path = s.path := by
  unfold flush; split <;> rfl

theorem path_write (s : FileSink) (files : FileTree) (bytes : List UInt8) :
    (s.write files bytes).1.path = s.path := by
  unfold write
  by_cases hf : s.pending.size + bytes.length ≤ capacity
  · simp only [hf, if_true]
    split <;> rfl
  · simp only [hf, if_false]
    split
    · exact s.path_flush files
    · exact s.path_flush files

end FileSink

namespace Mirror

/-- Nothing, if the mirror is off when the call comes. -/
def deed (m : Mirror) (files : FileTree) (c : MirrorCall) : List Deed :=
  if m.disabled then [] else [⟨c, (ask m.sink files c).2, (m.act files c).diagnostics⟩]

def deeds (m : Mirror) (files : FileTree) : List MirrorCall → List Deed
  | [] => []
  | c :: calls => m.deed files c ++ (m.act files c).mirror.deeds (m.act files c).files calls

/-- All that is reported in the course of a number of calls. -/
def remarks (m : Mirror) (files : FileTree) : List MirrorCall → List Diagnostic
  | [] => []
  | c :: calls =>
    (m.act files c).diagnostics ++ (m.act files c).mirror.remarks (m.act files c).files calls

/-- What is to be reported of a call after a number of failures in a row. -/
def due (m : Mirror) (streak : Nat) : Option String → List Diagnostic
  | none => []
  | some reason =>
    (if streak = 0 then [⟨.error, m.streakText reason, .caller⟩] else []) ++
      if streak + 1 = patience then [⟨.error, m.disabledText patience, .caller⟩] else []

theorem deed_of_on {m : Mirror} (h : m.disabled = false) (files : FileTree) (c : MirrorCall) :
    m.deed files c = [⟨c, (ask m.sink files c).2, (m.act files c).diagnostics⟩] :=
  if_neg (by rw [h]; exact Bool.false_ne_true)

theorem map_trial_deeds (m : Mirror) (files : FileTree) (calls : List MirrorCall) :
    (m.deeds files calls).map Deed.trial = m.trials files calls := by
  induction calls generalizing m files with
  | nil => rfl
  | cons c calls ih =>
    have hstep : (m.deed files c).map Deed.trial = m.tried files c := by
      unfold deed tried
      split <;> rfl
    rw [deeds, trials, List.map_append, hstep, ih]

theorem deeds_append (m : Mirror) (files : FileTree) (as bs : List MirrorCall) :
    m.deeds files (as ++ bs) = m.deeds files as ++
      (m.acts files as).1.deeds (m.acts files as).2 bs := by
  induction as generalizing m files with
  | nil => rfl
  | cons c as ih =>
    rw [List.cons_append, deeds, deeds, ih, List.append_assoc]
    rfl

theorem remarks_append (m : Mirror) (files : FileTree) (as bs : List MirrorCall) :
    m.remarks files (as ++ bs) = m.remarks files as ++
      (m.acts files as).1.remarks (m.acts files as).2 bs := by
  induction as generalizing m files with
  | nil => rfl
  | cons c as ih =>
    rw [List.cons_append, remarks, remarks, ih, List.append_assoc]
    rfl

theorem remarks_eq (m : Mirror) (files : FileTree) (calls : List MirrorCall) :
    m.remarks files calls = (m.deeds files calls).flatMap Deed.reports := by
  induction calls generalizing m files with
  | nil => rfl
  | cons c calls ih =>
    have hstep : (m.act files c).diagnostics = (m.deed files c).flatMap Deed.reports := by
      cases hd : m.disabled with
      | true => rw [deed, if_pos hd, act_of_disabled hd, List.flatMap_nil]
      | false => rw [deed_of_on hd, List.flatMap_singleton]
    rw [remarks, deeds, List.flatMap_append, hstep, ih]

theorem pathText_ask (m : Mirror) (files : FileTree) (c : MirrorCall) :
    { m with sink := (ask m.sink files c).1.1 : Mirror }.pathText = m.pathText := by
  have hpath : (ask m.sink files c).1.1.path? = m.sink.path? := by
    cases m.sink with
    | device d => cases c <;> rfl
    | file f =>
      cases c with
      | record e => exact congrArg some (f.path_write files e.lineBytes)
      | flush => exact congrArg some (f.path_flush files)
  unfold pathText
  rw [hpath]

theorem pathText_act (m : Mirror) (files : FileTree) (c : MirrorCall) :
    (m.act files c).mirror.pathText = m.pathText := by
  cases hd : m.disabled with
  | true => rw [act_of_disabled hd]
  | false =>
    have hpath := m.pathText_ask files c
    unfold pathText at hpath ⊢
    rw [(sink_act hd files c).1]
    exact hpath

theorem pathText_acts (m : Mirror) (files : FileTree) (calls : List MirrorCall) :
    (m.acts files calls).1.pathText = m.pathText := by
  induction calls generalizing m files with
  | nil => rfl
  | cons c calls ih => exact (ih _ _).trans (m.pathText_act files c)

theorem due_congr {m m' : Mirror} (h : m.pathText = m'.pathText) (streak : Nat)
    (failure : Option String) :
    m.due streak failure = m'.due streak failure := by
  cases failure with
  | none => rfl
  | some reason =>
    have htexts : m.streakText reason = m'.streakText reason ∧
        m.disabledText patience = m'.disabledText patience := by
      unfold streakText disabledText
      rw [h]
      exact ⟨rfl, rfl⟩
    rw [due, due, htexts.1, htexts.2]

theorem track_eq_due {m : Mirror} (hd : m.disabled = false) (hlt : m.failures < patience)
    (failure : Option String) :
    (m.track failure).2 = m.due m.failures failure := by
  cases failure with
  | none => rfl
  | some reason =>
    simp only [track, due, hd, Nat.add_eq_right, Bool.not_false, Bool.and_true, decide_eq_true_iff]
    congr 1
    by_cases hthird : m.failures + 1 = patience
    · rw [hthird, if_pos (Nat.le_refl _), if_pos rfl]
    · rw [if_neg (by omega), if_neg hthird]

theorem diagnostics_act {m : Mirror} {ts : List Trial} (h : m.Counts ts) (hd : m.disabled = false)
    (files : FileTree) (c : MirrorCall) :
    Trial.streak ts < patience ∧
      (m.act files c).diagnostics = m.due (Trial.streak ts) (ask m.sink files c).2 := by
  have hlt : Trial.streak ts < patience := by
    have hcount := h.disabled
    rw [hd] at hcount
    simpa using hcount.symm
  refine ⟨hlt, ?_⟩
  rw [act_of_on hd, ← h.failures, ← due_congr (m.pathText_ask files c)]
  exact track_eq_due (m := { m with sink := (ask m.sink files c).1.1 }) hd (h.failures ▸ hlt) _

/-- Behind the path the one goes on with a colon, the other with a blank. -/
theorem streakText_ne_disabledText (m : Mirror) (reason : String) (failures : Nat) :
    m.streakText reason ≠ m.disabledText failures := by
  intro h
  have hchars := congrArg String.toList h
  unfold streakText disabledText at hchars
  simp only [String.toList_append, List.append_assoc, List.append_cancel_left_eq] at hchars
  have hcolon : (": log mirror write failed: ".toList ++ reason.toList).head? = some ':' := rfl
  rw [hchars] at hcolon
  cases hcolon

section
variable {sink : Sink} {files : FileTree} {calls : List MirrorCall}

theorem reports_of_split {before after : List Deed} {d : Deed}
    (h : deeds { sink } files calls = before ++ d :: after) :
    Trial.streak (before.map Deed.trial) < patience ∧
      d.reports = due { sink } (Trial.streak (before.map Deed.trial)) d.failure := by
  have htrials : trials { sink } files calls =
      before.map Deed.trial ++ d.trial :: after.map Deed.trial := by
    rw [← map_trial_deeds, h, List.map_append, List.map_cons]
  obtain ⟨front, later, rfl, hfront, hlater⟩ := trials_eq_append htrials
  rw [deeds_append] at h
  obtain ⟨hbefore, hafter⟩ :=
    List.append_inj h (by rw [← List.length_map Deed.trial, map_trial_deeds, hfront,
    List.length_map])
  have hcounts := (counts_fresh sink).acts files front
  rw [List.nil_append, hfront] at hcounts
  cases later with
  | nil => cases hafter
  | cons c later =>
    cases hd : (acts { sink } files front).1.disabled with
    | true =>
      rw [(acts_of_disabled hd _ _).2] at hlater
      cases hlater
    | false =>
      rw [deeds, deed_of_on hd] at hafter
      obtain ⟨rfl, -⟩ := List.cons.inj hafter
      obtain ⟨hlt, hdiagnostics⟩ := diagnostics_act hcounts hd (acts { sink } files front).2 c
      exact ⟨hlt, hdiagnostics.trans (due_congr (pathText_acts _ files front) _ _)⟩

theorem reports_in_spell (taken : List Deed) {before rest after : List Deed} {d : Deed}
    (h : Deed.Spell (deeds { sink } files calls) before (taken ++ d :: rest) after) :
    taken.length < patience ∧
      ∃ reason, d.failure = some reason ∧
        d.reports = due { sink } taken.length (some reason) := by
  have hsplit : deeds { sink } files calls = (before ++ taken) ++ d :: (rest ++ after) := by
    rw [h.eq]
    simp
  have hstart : Trial.streak (before.map Deed.trial) = 0 := by
    refine Trial.streak_eq_zero fun t ht => ?_
    rw [List.getLast?_map] at ht
    obtain ⟨b, hb, rfl⟩ := Option.map_eq_some_iff.1 ht
    exact h.starts b hb
  have hstreak : Trial.streak ((before ++ taken).map Deed.trial) = taken.length := by
    rw [List.map_append, Trial.streak_append, hstart, List.length_map, Nat.zero_add]
    intro t ht
    obtain ⟨b, hb, rfl⟩ := List.mem_map.1 ht
    exact h.failed b (List.mem_append_left _ hb)
  obtain ⟨reason, hreason⟩ := Option.isSome_iff_exists.1 (h.failed d (by simp))
  obtain ⟨hlt, hreports⟩ := reports_of_split hsplit
  rw [hstreak] at hlt hreports
  exact ⟨hlt, reason, hreason, hreason ▸ hreports⟩

/-- The first failure of a spell is reported, and none after it; the third switches the mirror
off. -/
theorem reports_of_spell {before row after : List Deed}
    (h : Deed.Spell (deeds { sink } files calls) before row after) :
    ∃ first rest reason, row = first :: rest ∧ first.failure = some reason ∧
      first.reports = [⟨.error, streakText { sink } reason, .caller⟩] ∧
      rest.flatMap Deed.reports =
        if row.length = patience then [⟨.error, disabledText { sink } patience, .caller⟩]
        else [] := by
  cases row with
  | nil => exact absurd rfl h.nonempty
  | cons a rest =>
    obtain ⟨-, reason, hfailure, hreports⟩ := reports_in_spell [] h
    refine ⟨a, rest, reason, rfl, hfailure, hreports, ?_⟩
    -- there is no room for a fourth failure
    match rest, h with
    | [], _ => rfl
    | [b], h =>
      obtain ⟨-, _, -, hb⟩ := reports_in_spell [a] h
      rw [List.flatMap_singleton, hb]
      rfl
    | [b, c], h =>
      obtain ⟨-, _, -, hb⟩ := reports_in_spell [a] h
      obtain ⟨-, _, -, hc⟩ := reports_in_spell [a, b] h
      rw [List.flatMap_cons, List.flatMap_singleton, hb, hc]
      rfl
    | b :: c :: d :: rest, h => exact absurd (reports_in_spell [a, b, c] h).1 (Nat.lt_irrefl _)

theorem reports_of_success {d : Deed} (hd : d ∈ deeds { sink } files calls)
    (hok : d.failed = false) :
    d.reports = [] := by
  obtain ⟨before, after, h⟩ := List.append_of_mem hd
  have hnone : d.failure = none :=
    Option.not_isSome_iff_eq_none.1 (by rw [← Deed.failed, hok]; exact Bool.false_ne_true)
  rw [(reports_of_split h).2, hnone]
  rfl

theorem disabled_iff_row : (acts { sink } files calls).1.disabled = true ↔
    ∃ row, row <:+: deeds { sink } files calls ∧ row.length = patience ∧
      ∀ d ∈ row, d.failed = true := by
  constructor
  · intro hoff
    have hcounts := (counts_fresh sink).acts files calls
    rw [hcounts.disabled, List.nil_append, decide_eq_true_iff, Trial.le_streak_iff,
      ← map_trial_deeds] at hoff
    obtain ⟨row', ⟨front, hfront⟩, hlength, hfailed⟩ := hoff
    obtain ⟨before, row, hsplit, -, rfl⟩ := List.map_eq_append_iff.1 hfront.symm
    refine ⟨row, ⟨before, [], by rw [hsplit, List.append_nil]⟩, by simpa using hlength,
      fun d hd => ?_⟩
    exact hfailed d.trial (List.mem_map_of_mem hd)
  · rintro ⟨row, ⟨before, after, hsplit⟩, hlength, hfailed⟩
    have htrials : trials { sink } files calls =
        before.map Deed.trial ++ row.map Deed.trial ++ after.map Deed.trial := by
      rw [← map_trial_deeds, ← hsplit, List.map_append, List.map_append]
    refine (off_of_row htrials (Nat.le_of_eq (by rw [List.length_map, hlength])) fun t ht => ?_).1
    obtain ⟨d, hd, rfl⟩ := List.mem_map.1 ht
    exact hfailed d hd

theorem count_due {streak : Nat} (hlt : streak < patience) (failure : Option String) :
    (due { sink } streak failure).count ⟨.error, disabledText { sink } patience, .caller⟩ =
      if failure.isSome ∧ patience ≤ streak + 1 then 1 else 0 := by
  cases failure with
  | none => rfl
  | some reason =>
    have hne := streakText_ne_disabledText { sink } reason patience
    have hthird : patience ≤ streak + 1 ↔ streak + 1 = patience := by omega
    simp only [due, List.count_append, hthird, Option.isSome_some, true_and]
    split <;> split <;> simp [hne]

theorem count_disabled (sink : Sink) (files : FileTree) (calls : List MirrorCall) :
    (remarks { sink } files calls).count ⟨.error, disabledText { sink } patience, .caller⟩ =
      if (acts { sink } files calls).1.disabled then 1 else 0 := by
  induction calls using List.reverseRecOn with
  | nil => rfl
  | append_singleton calls c ih =>
    have hcounts := (counts_fresh sink).acts files calls
    rw [remarks_append, acts_append, List.count_append, ih]
    show _ + List.count _
        (((acts { sink } files calls).1.act (acts { sink } files calls).2 c).diagnostics ++ []) =
      if ((acts { sink } files calls).1.act (acts { sink } files calls).2 c).mirror.disabled then 1
      else 0
    rw [List.append_nil]
    cases hd : (acts { sink } files calls).1.disabled with
    | true =>
      rw [act_of_disabled hd, hd]
      rfl
    | false =>
      obtain ⟨hlt, hdiagnostics⟩ := diagnostics_act hcounts hd (acts { sink } files calls).2 c
      have hnext := (hcounts.act (acts { sink } files calls).2 c).disabled
      rw [tried_of_on hd, Trial.streak_concat] at hnext
      rw [hdiagnostics, due_congr (pathText_acts { sink } files calls), count_due hlt, hnext]
      cases (ask (acts { sink } files calls).1.sink (acts { sink } files calls).2 c).2 <;>
        simp [patience]

end

/-- What a mirror makes of calls, however they go. -/
structure Accounts (m : Mirror) (files : FileTree) (calls : List MirrorCall) : Prop where
  performed : ∃ rest, calls = (m.deeds files calls).map Deed.call ++ rest ∧
    ((m.acts files calls).1.disabled = false → rest = [])
  off_iff : (m.acts files calls).1.disabled = true ↔
    ∃ row, row <:+: m.deeds files calls ∧ row.length = patience ∧
      ∀ d ∈ row, d.failed = true
  stays_off : (m.acts files calls).1.disabled = true →
    ∀ later, m.acts files (calls ++ later) = m.acts files calls ∧
    m.deeds files (calls ++ later) = m.deeds files calls ∧
      m.remarks files (calls ++ later) = m.remarks files calls
  remarks : m.remarks files calls = (m.deeds files calls).flatMap Deed.reports
  quiet : ∀ d ∈ m.deeds files calls, d.failed = false → d.reports = []
  spells : ∀ before row after, Deed.Spell (m.deeds files calls) before row after →
    ∃ first rest reason, row = first :: rest ∧ first.failure = some reason ∧
      first.reports = [⟨.error, m.streakText reason, .caller⟩] ∧
      rest.flatMap Deed.reports =
        if row.length = patience then [⟨.error, m.disabledText patience, .caller⟩] else []
  off_once : (m.remarks files calls).count ⟨.error, m.disabledText patience, .caller⟩ =
    if (m.acts files calls).1.disabled then 1 else 0

theorem deeds_remarks_of_disabled {m : Mirror} (h : m.disabled = true) (files : FileTree)
    (calls : List MirrorCall) :
    m.deeds files calls = [] ∧ m.remarks files calls = [] := by
  have hdeeds : m.deeds files calls = [] := by
    rw [← List.map_eq_nil_iff, map_trial_deeds]
    exact (acts_of_disabled h files calls).2
  exact ⟨hdeeds, by rw [remarks_eq, hdeeds, List.flatMap_nil]⟩

/-- A mirror goes off exactly if three of the calls that it carried out failed in a row, and stays
off; it reports the first failure of each row, and once that it goes off. Whoever uses a log sees
nothing of that: the log returns and delivers what it would if it never had a mirror. -/
theorem failures_accounted_for (sink : Sink) (files : FileTree) (calls : List MirrorCall)
    (p : Pipeline) (steps : List LogStep) :
    Accounts { sink } files calls ∧
    Pipeline.along Pipeline.answers p steps =
      Pipeline.along Pipeline.answers p.bare (steps.filter (!·.installs)) ∧
    (p.after steps).deliveries = (p.bare.after (steps.filter (!·.installs))).deliveries := by
  obtain ⟨hanswers, hafter⟩ := Pipeline.answers_along (p := p) (q := p.bare) rfl steps
  have hdeliveries := congrArg Pipeline.deliveries hafter
  refine ⟨?_, hanswers, hdeliveries⟩
  refine ⟨?_, disabled_iff_row, fun hoff later => ?_, remarks_eq _ _ _,
    fun d => reports_of_success,
    fun before row after => reports_of_spell, count_disabled sink files calls⟩
  · have hcalls : (trials { sink } files calls).map Trial.call =
        (deeds { sink } files calls).map Deed.call := by
      rw [← map_trial_deeds, List.map_map]
      rfl
    exact hcalls ▸ calls_of_trials _ files calls
  · obtain ⟨hdeeds, hremarks⟩ :=
      deeds_remarks_of_disabled hoff (acts { sink } files calls).2 later
    rw [acts_append, deeds_append, remarks_append, hdeeds, hremarks,
      List.append_nil, List.append_nil]
    exact ⟨(acts_of_disabled hoff _ later).1, rfl, rfl⟩

theorem failures_accounted_for_across_calls :
    let e : Entry := ⟨0, .message, .description "a"⟩
    let d : Device := { writes := [.atMost 5, .failed "disk full", .failed "disk full"]
                        flushes := [.done, .failed "flush refused"] }
    let m : Mirror := { sink := .device d }
    let calls : List MirrorCall := [.flush, .record e, .flush, .record e]
    (m.acts {} calls).1.disabled = true ∧
      m.acts {} (calls ++ [.record e, .flush]) = m.acts {} calls ∧
      (m.deeds {} calls).map Deed.failed = [false, true, true, true] ∧
      m.remarks {} (calls ++ [.record e, .flush]) =
        [⟨.error, "Log mirror None: log mirror write failed: disk full", .caller⟩,
          ⟨.error, "Log mirror None disabled after 3 consecutive failures", .caller⟩] := by
  intro e d m calls
  obtain ⟨haccounts, -⟩ := failures_accounted_for m.sink {} calls {} []
  have hds : m.deeds {} calls = [⟨.flush, none, []⟩] ++ (m.deeds {} calls).drop 1 ++ [] := by
    decide +kernel
  have hfailed : (m.deeds {} calls).map Deed.failed = [false, true, true, true] := by decide +kernel
  have hspell :
      Deed.Spell (m.deeds {} calls) [⟨.flush, none, []⟩] ((m.deeds {} calls).drop 1) [] :=
    ⟨hds, by decide +kernel, by decide +kernel, by decide, nofun⟩
  have hoff : (m.acts {} calls).1.disabled = true :=
    haccounts.off_iff.2 ⟨_, ⟨_, _, hds.symm⟩, by decide +kernel, hspell.failed⟩
  obtain ⟨hacts, -, hremarks⟩ := haccounts.stays_off hoff [.record e, .flush]
  refine ⟨hoff, hacts, hfailed, ?_⟩
  obtain ⟨first, rest, reason, hrow, hreason, hfirst, hrest⟩ := haccounts.spells _ _ _ hspell
  have hlength : ((m.deeds {} calls).drop 1).length = patience := by decide +kernel
  have hhead : ((m.deeds {} calls).drop 1).head?.bind Deed.failure = some "disk full" := by
    decide +kernel
  obtain rfl : reason = "disk full" := by
    rw [hrow, List.head?_cons, Option.bind_some, hreason] at hhead
    exact Option.some.inj hhead
  rw [hremarks, haccounts.remarks, hds, hrow]
  simp only [List.flatMap_append, List.flatMap_cons, List.flatMap_nil, List.append_nil,
    hfirst, hrest, if_pos hlength]
  decide +kernel

end Mirror
end SocksGateway
