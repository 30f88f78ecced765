import SocksGateway.Log.Mirror
import SocksGateway.Proofs.Log.RecordBytes

/-!
The lines that a mirror's device ends up with. A write that fails may leave the front of a line
behind; what the device takes next goes on from there, so that the next line that is taken whole is
ended together with it.
-/
namespace SocksGateway

inductive MirrorCall
  | record (entry : Entry)
  | flush
deriving DecidableEq

def MirrorCall.recorded : MirrorCall → List Entry
  | record e => [e]
  | flush => []

/-- What a device took of the line of one entry. -/
structure Share where
  entry : Entry
  bytes : List UInt8

namespace Share

def isWhole (s : Share) : Bool := s.bytes == s.entry.lineBytes

def isCut (s : Share) : Bool := !s.isWhole && !s.bytes.isEmpty

/-- What comes of shares after bytes that end no line: the lines they end, and the rest. -/
def pieces (cut : List UInt8) : List Share → List (List UInt8)
  | [] => [cut]
  | s :: ss =>
    if s.isWhole then (cut ++ s.entry.recordBytes) :: pieces [] ss else pieces (cut ++ s.bytes) ss

/-- No line is taken whole once another was cut. -/
def Untorn (ss : List Share) : Prop := ss.Pairwise fun s t => s.isCut = true → t.isWhole = false

theorem pieces_of_whole {s : Share} (h : s.isWhole = true) (cut : List UInt8) (ss : List Share) :
    pieces cut (s :: ss) = (cut ++ s.entry.recordBytes) :: pieces [] ss := if_pos h

theorem pieces_of_not_whole {s : Share} (h : s.isWhole = false) (cut : List UInt8)
    (ss : List Share) :
    pieces cut (s :: ss) = pieces (cut ++ s.bytes) ss :=
  if_neg (by rw [h]; exact Bool.false_ne_true)

theorem pieces_ne_nil (cut : List UInt8) (ss : List Share) : pieces cut ss ≠ [] := by
  induction ss generalizing cut with
  | nil => exact List.cons_ne_nil _ _
  | cons s ss ih =>
    cases h : s.isWhole with
    | true => rw [pieces_of_whole h]; exact List.cons_ne_nil _ _
    | false => rw [pieces_of_not_whole h]; exact ih _

theorem newline_notMem_of_not_whole {s : Share} (hs : s.bytes <+: s.entry.lineBytes)
    (h : s.isWhole = false) :
    10 ∉ s.bytes := by
  have hne : s.bytes ≠ s.entry.lineBytes := beq_eq_false_iff_ne.1 h
  rw [Entry.lineBytes_eq] at hs hne
  have hp := (List.prefix_concat_iff.1 hs).resolve_left hne
  exact fun hm => s.entry.newline_notMem_recordBytes (hp.subset hm)

theorem splitOn_eq_pieces {ss : List Share} (hs : ∀ s ∈ ss, s.bytes <+: s.entry.lineBytes)
    {cut : List UInt8} (hc : 10 ∉ cut) :
    (cut ++ ss.flatMap Share.bytes).splitOn 10 = pieces cut ss := by
  induction ss generalizing cut with
  | nil =>
    rw [List.flatMap_nil, List.append_nil]
    exact List.splitOn_eq_singleton hc
  | cons s ss ih =>
    obtain ⟨hs, hss⟩ := List.forall_mem_cons.1 hs
    rw [List.flatMap_cons]
    cases h : s.isWhole with
    | true =>
      have hb : s.bytes = s.entry.recordBytes ++ [10] := (beq_iff_eq.1 h).trans s.entry.lineBytes_eq
      have hn : 10 ∉ cut ++ s.entry.recordBytes := by
        rw [List.mem_append]
        exact not_or.2 ⟨hc, s.entry.newline_notMem_recordBytes⟩
      rw [pieces_of_whole h, ← ih hss List.not_mem_nil,
        ← List.splitOn_append_cons_self_of_not_mem hn, hb]
      simp
    | false =>
      have hn : 10 ∉ cut ++ s.bytes := by
        rw [List.mem_append]
        exact not_or.2 ⟨hc, newline_notMem_of_not_whole hs h⟩
      rw [pieces_of_not_whole h, ← ih hss hn, List.append_assoc]

theorem pieces_of_untorn {ss : List Share} (hu : Untorn ss) {cut : List UInt8}
    (hc : cut = [] ∨ ∀ t ∈ ss, t.isWhole = false) :
    ∃ rest,
      pieces cut ss = ((ss.filter isWhole).map Share.entry).map Entry.recordBytes ++ [rest] := by
  induction ss generalizing cut with
  | nil => exact ⟨cut, rfl⟩
  | cons s ss ih =>
    obtain ⟨hs, hu⟩ := List.pairwise_cons.1 hu
    cases h : s.isWhole with
    | true =>
      obtain rfl : cut = [] := hc.resolve_right fun hn => by
        rw [hn s List.mem_cons_self] at h; cases h
      obtain ⟨rest, hr⟩ := ih hu (.inl rfl)
      refine ⟨rest, ?_⟩
      rw [pieces_of_whole h, hr, List.filter_cons_of_pos h]
      rfl
    | false =>
      have hc : cut ++ s.bytes = [] ∨ ∀ t ∈ ss, t.isWhole = false := by
        by_cases hb : s.bytes = []
        · rw [hb, List.append_nil]
          exact hc.imp_right fun hn t ht => hn t (List.mem_cons_of_mem _ ht)
        · exact .inr fun t ht => hs t ht (by simp [isCut, h, hb])
      obtain ⟨rest, hr⟩ := ih hu hc
      refine ⟨rest, ?_⟩
      rw [pieces_of_not_whole h, hr, List.filter_cons_of_neg (by rw [h]; exact Bool.false_ne_true)]

/-- If every line is a record then no line was taken whole after bytes that end none. -/
theorem untorn_of_pieces {ss : List Share} {cut rest : List UInt8} {es : List Entry}
    (h : pieces cut ss = es.map Entry.recordBytes ++ [rest]) :
    (cut = [] ∨ ∀ t ∈ ss, t.isWhole = false) ∧ Untorn ss := by
  induction ss generalizing cut es with
  | nil => exact ⟨.inr nofun, .nil⟩
  | cons s ss ih =>
    cases hs : s.isWhole with
    | true =>
      rw [pieces_of_whole hs] at h
      cases es with
      | nil => exact absurd (List.cons.inj h).2 (pieces_ne_nil [] ss)
      | cons e es =>
        obtain ⟨hline, hrest⟩ := List.cons.inj h
        refine ⟨.inl (Entry.eq_nil_of_append hline),
          List.pairwise_cons.2 ⟨fun t _ hcut => ?_, (ih hrest).2⟩⟩
        simp [isCut, hs] at hcut
    | false =>
      rw [pieces_of_not_whole hs] at h
      obtain ⟨hc, hu⟩ := ih h
      refine ⟨?_, List.pairwise_cons.2 ⟨fun t ht hcut => ?_, hu⟩⟩
      · rcases hc with hc | hn
        · exact .inl (List.append_eq_nil_iff.1 hc).1
        · exact .inr (List.forall_mem_cons.2 ⟨hs, hn⟩)
      · rcases hc with hc | hn
        · simp [isCut, (List.append_eq_nil_iff.1 hc).2] at hcut
        · exact hn t ht

end Share

namespace Mirror

def act (m : Mirror) (files : FileTree) : MirrorCall → Outcome
  | .record e => m.record files e
  | .flush => m.flush files

def acts (m : Mirror) (files : FileTree) : List MirrorCall → Mirror × FileTree
  | [] => (m, files)
  | c :: calls => (m.act files c).mirror.acts (m.act files c).files calls

def after (m : Mirror) (files : FileTree) (calls : List MirrorCall) : Mirror :=
  (m.acts files calls).1

/-- All that the mirror's device took. -/
def taken (m : Mirror) : List UInt8 :=
  match m.sink with
  | .device d => d.taken.toList
  | .file _ => []

/-- What the mirror's device takes of the line of an entry. -/
def share (m : Mirror) (e : Entry) : List UInt8 :=
  match m.disabled, m.sink with
  | false, .device d => (Transfer.run d.writes e.lineBytes).taken
  | _, _ => []

def shares (m : Mirror) (files : FileTree) : List MirrorCall → List Share
  | [] => []
  | c :: calls =>
    c.recorded.map (fun e => ⟨e, m.share e⟩) ++
      (m.act files c).mirror.shares (m.act files c).files calls

section
variable {m : Mirror} {d : Device} (files : FileTree)

theorem sink_track (m : Mirror) (failure : Option String) : (m.track failure).1.sink = m.sink := by
  cases failure <;> rfl

theorem share_prefix (m : Mirror) (e : Entry) : m.share e <+: e.lineBytes := by
  unfold share
  split
  · exact (Transfer.taken_prefix _ _).1
  · exact List.nil_prefix

theorem act_record (h : m.sink = .device d) (e : Entry) :
    ∃ d', (m.act files (.record e)).mirror.sink = .device d' ∧
      d'.taken.toList = d.taken.toList ++ m.share e := by
  obtain ⟨sink, failures, disabled⟩ := m
  obtain rfl : sink = .device d := h
  cases disabled with
  | true => exact ⟨d, rfl, (List.append_nil _).symm⟩
  | false => exact ⟨(d.write e.lineBytes).1, sink_track _ _, Array.toList_append.trans rfl⟩

theorem act_flush (h : m.sink = .device d) :
    ∃ d', (m.act files .flush).mirror.sink = .device d' ∧ d'.taken.toList = d.taken.toList := by
  obtain ⟨sink, failures, disabled⟩ := m
  obtain rfl : sink = .device d := h
  cases disabled with
  | true => exact ⟨d, rfl, rfl⟩
  | false =>
    exact ⟨d.flush.1, sink_track _ _, by unfold Device.flush; dsimp only; split <;> rfl⟩

/-- The device takes a front of every line, one after the other, and nothing else. -/
theorem after_taken (h : m.sink = .device d) (calls : List MirrorCall) :
    (m.after files calls).taken = d.taken.toList ++ (m.shares files calls).flatMap Share.bytes ∧
      (m.shares files calls).map Share.entry = calls.flatMap MirrorCall.recorded ∧
      ∀ s ∈ m.shares files calls, s.bytes <+: s.entry.lineBytes := by
  induction calls generalizing m d files with
  | nil =>
    refine ⟨?_, rfl, nofun⟩
    rw [shares, List.flatMap_nil, List.append_nil, after, acts, taken, h]
  | cons c calls ih =>
    cases c with
    | record e =>
      obtain ⟨d', hd, ht⟩ := act_record files h e
      obtain ⟨h₁, h₂, h₃⟩ := ih (m.act files (.record e)).files hd
      refine ⟨?_, congrArg (e :: ·) h₂, List.forall_mem_cons.2 ⟨m.share_prefix e, h₃⟩⟩
      rw [shares, List.flatMap_append, ← List.append_assoc]
      refine h₁.trans (congrArg (· ++ _) ?_)
      rw [ht]
      exact congrArg (d.taken.toList ++ ·) (List.append_nil _).symm
    | flush =>
      obtain ⟨d', hd, ht⟩ := act_flush files h
      obtain ⟨h₁, h₂, h₃⟩ := ih (m.act files .flush).files hd
      exact ⟨ht ▸ h₁, h₂, h₃⟩

end

/-- Every line that was ended is the record of one entry, and no two entries are in one line. -/
def Framed (bytes : List UInt8) (entries : List Entry) : Prop :=
  ∃ (es : List Entry) (rest : List UInt8),
    es.Sublist entries ∧ bytes.splitOn 10 = es.map Entry.recordBytes ++ [rest]

/-- Every line that a device takes whole ends one line of what the device has, and begins with
whatever was left of lines that were cut before. So the lines are records, one for each entry that
was taken whole and in their order, exactly if no line is taken whole once another was cut. -/
theorem framed_iff_untorn (files : FileTree) (writes : List WriteReply) (flushes : List FlushReply)
    (calls : List MirrorCall) :
    let m := ofDevice { writes, flushes }
    let shares := m.shares files calls
    shares.map Share.entry = calls.flatMap MirrorCall.recorded ∧
    (∀ s ∈ shares, s.bytes <+: s.entry.lineBytes) ∧
    (m.after files calls).taken.splitOn 10 = Share.pieces [] shares ∧
    (Framed (m.after files calls).taken (calls.flatMap MirrorCall.recorded) ↔
      Share.Untorn shares) ∧
    (Share.Untorn shares → ∃ rest, (m.after files calls).taken.splitOn 10 =
      ((shares.filter Share.isWhole).map Share.entry).map Entry.recordBytes ++ [rest]) := by
  intro m shares
  obtain ⟨htaken, hentries, hshares⟩ := after_taken (m := m) files rfl calls
  have hpieces : (m.after files calls).taken.splitOn 10 = Share.pieces [] shares := by
    rw [htaken]
    exact Share.splitOn_eq_pieces hshares List.not_mem_nil
  have huntorn (hu : Share.Untorn shares) : ∃ rest, (m.after files calls).taken.splitOn 10 =
      ((shares.filter Share.isWhole).map Share.entry).map Entry.recordBytes ++ [rest] := by
    rw [hpieces]
    exact Share.pieces_of_untorn hu (.inl rfl)
  refine ⟨hentries, hshares, hpieces, ⟨fun hf => ?_, fun hu => ?_⟩, huntorn⟩
  · obtain ⟨es, rest, -, hlines⟩ := hf
    exact (Share.untorn_of_pieces (hpieces.symm.trans hlines)).2
  · obtain ⟨rest, hlines⟩ := huntorn hu
    refine ⟨_, rest, ?_, hlines⟩
    rw [← hentries]
    exact List.filter_sublist.map Share.entry

/-- Two entries in one line. -/
theorem not_framed_after_cut :
    let a : Entry := ⟨0, .message, .description "a"⟩
    let b : Entry := ⟨1, .message, .description "b"⟩
    let m :=
      (ofDevice { writes := [.atMost 5, .failed "disk full"] }).after {} [.record a, .record b]
    m.taken.splitOn 10 = [a.recordBytes.take 5 ++ b.recordBytes, []] ∧
      ¬ Framed m.taken [a, b] := by
  intro a b m
  have hlines : m.taken.splitOn 10 = [a.recordBytes.take 5 ++ b.recordBytes, []] := by
    decide +kernel
  refine ⟨hlines, ?_⟩
  rintro ⟨es, rest, -, h⟩
  rw [hlines] at h
  cases es with
  | nil => cases h
  | cons e es =>
    have hcut := Entry.eq_nil_of_append (List.cons.inj h).1
    revert hcut
    decide +kernel

end Mirror
end SocksGateway
