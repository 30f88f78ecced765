import SocksGateway.Proofs.Log.Conservation
import SocksGateway.Proofs.Log.Framing

/-!
Mirrors as copies. A log makes nothing of its mirror but a line for each entry that it accepts, and
flushes. So as long as nothing goes wrong with the writing a mirror has the lines of all entries
that were accepted while it was in place, in their order, whatever became of these entries.
-/
namespace SocksGateway

namespace FileSink

theorem key_write (s : FileSink) (files : FileTree) (bytes : List UInt8) :
    (s.write files bytes).1.key = s.key := by
  unfold write
  by_cases hf : s.pending.size + bytes.length ≤ capacity
  · simp only [hf, if_true]
    split <;> rfl
  · simp only [hf, if_false]
    split
    · exact s.key_flush files
    · exact s.key_flush files

theorem content_of_flush (s : FileSink) (h : s.key.isFixed = false) (files : FileTree) :
    (s.flush files).2.content s.key = s.content files := by
  have hc := s.content_flush h files
  rw [content, key_flush, pending_flush, Array.append_empty] at hc
  exact hc

end FileSink

namespace FileTree

theorem get?_put_of_ne (t : FileTree) {key k : FileKey} (h : k ≠ key) (node : FileNode) :
    (t.put key node).get? k = t.get? k := by
  have hkey : (k == key) = false := beq_false_of_ne h
  have hl : ∀ nodes : List (FileKey × FileNode),
      (nodes.filter (·.1 != key)).lookup k = nodes.lookup k := by
    intro nodes
    induction nodes with
    | nil => rfl
    | cons n nodes ih =>
      obtain ⟨l, m⟩ := n
      by_cases hk : l = key
      · subst hk
        simp [ih, List.lookup_cons, hkey]
      · simp [hk, ih, List.lookup_cons]
  unfold get? put
  rw [List.lookup_cons, hkey, hl]

theorem content_append_congr {t t' : FileTree} (h : ∀ k, t.content k = t'.content k)
    (key : FileKey) (bytes : Array UInt8) (k : FileKey) :
    (t.append key bytes).content k = (t'.append key bytes).content k := by
  by_cases hk : k = key
  · subst hk
    cases hf : k.isFixed with
    | true => simp [content, get?, hf]
    | false => rw [content_append _ hf, content_append _ hf, h]
  · rw [content, append, get?_put_of_ne _ hk, content, append, get?_put_of_ne _ hk]
    exact h k

theorem resolve_eq_ok {t : FileTree} {path : String} {key : FileKey} {node : Option FileNode}
    (h : t.resolve path = .ok (key, node)) : node = t.get? key := by
  unfold resolve at h
  simp only [bind, Except.bind] at h
  split at h
  next => cases h
  next ns _ =>
    split at h
    next => cases h
    next found _ =>
      split at h
      next content hget =>
        split at h
        · cases h
        · cases h
          exact hget.symm
      next => cases h; rfl

theorem openAppend_eq_ok {t t' : FileTree} {path : String} {key : FileKey}
    (h : t.openAppend path = .ok (key, t')) :
    (∃ content, t.get? key = some (.file content) ∧ t' = t) ∨
      t.get? key = none ∧ t' = t.put key (.file #[]) := by
  unfold openAppend at h
  simp only [bind, Except.bind] at h
  split at h
  next =>
    -- a name with a slash behind it is refused, whatever is there
    exfalso
    split at h
    · cases h
    split at h
    · cases h
    split at h <;> cases h
  next =>
    cases hr : t.resolve path with
    | error error => rw [hr] at h; cases h
    | ok found =>
      obtain ⟨k, node⟩ := found
      have hnode := resolve_eq_ok hr
      rw [hr] at h
      cases node with
      | none => cases h; exact .inr ⟨hnode.symm, rfl⟩
      | some node =>
        cases node with
        | directory => cases h
        | file content => cases h; exact .inl ⟨content, hnode.symm, rfl⟩

theorem content_openAppend {t t' : FileTree} {path : String} {key : FileKey}
    (h : t.openAppend path = .ok (key, t')) :
    key.isFixed = false ∧ ∀ k, t'.content k = t.content k := by
  have hfree : t.get? key ≠ some .directory → key.isFixed = false := by
    intro hd
    cases hf : key.isFixed with
    | false => rfl
    | true => simp [get?, hf] at hd
  rcases openAppend_eq_ok h with ⟨content, hget, rfl⟩ | ⟨hget, rfl⟩
  · exact ⟨hfree (by simp [hget]), fun k => rfl⟩
  · have hkey := hfree (by simp [hget])
    refine ⟨hkey, fun k => ?_⟩
    by_cases hk : k = key
    · subst hk
      rw [content, content, get?_put_self _ hkey, hget]
    · rw [content, content, t.get?_put_of_ne hk]

end FileTree

theorem FileSink.content_flush_congr {t t' : FileTree} (h : ∀ k, t.content k = t'.content k)
    (s : FileSink) (k : FileKey) : (s.flush t).2.content k = (s.flush t').2.content k := by
  unfold flush
  split
  · exact h k
  · exact FileTree.content_append_congr h s.key s.pending k

namespace Sink

theorem content_close_congr {t t' : FileTree} (h : ∀ k, t.content k = t'.content k) (s : Sink)
    (k : FileKey) :
    (s.close t).content k = (s.close t').content k := by
  cases s with
  | device d => exact h k
  | file f => exact f.content_flush_congr h k

/-- All bytes that were written: those that a device took, or those that a file has or will have. -/
def output (s : Sink) (files : FileTree) : List UInt8 :=
  match s with
  | device d => d.taken.toList
  | file f => (f.content files).toList

def key? : Sink → Option FileKey
  | device _ => none
  | file f => some f.key

theorem exists_file_of_key? {s : Sink} {key : FileKey} (h : s.key? = some key) :
    ∃ f, s = .file f ∧ f.key = key := by
  cases s with
  | device d => cases h
  | file f => exact ⟨f, rfl, Option.some.inj h⟩

/-- A directory cannot be written to. -/
def Proper (s : Sink) : Prop := ∀ key, s.key? = some key → key.isFixed = false

theorem write_of_quiet {s : Sink} (hs : s.Proper) {files : FileTree} {bytes : List UInt8}
    (h : (s.write files bytes).2 = none) :
    (s.write files bytes).1.1.key? = s.key? ∧
      (s.write files bytes).1.1.output (s.write files bytes).1.2 = s.output files ++ bytes := by
  cases s with
  | device d =>
    have hall : (Transfer.run d.writes bytes).taken = bytes :=
      (Transfer.taken_prefix d.writes bytes).2 h
    refine ⟨rfl, ?_⟩
    show (d.taken ++ (Transfer.run d.writes bytes).taken.toArray).toList = _
    rw [hall, Array.toList_append]
    rfl
  | file f =>
    refine ⟨congrArg some (f.key_write files bytes), ?_⟩
    show ((f.write files bytes).1.content (f.write files bytes).2).toList = _
    rw [f.content_write (hs f.key rfl), Array.toList_append]
    rfl

theorem flush_keeps {s : Sink} (hs : s.Proper) (files : FileTree) :
    (s.flush files).1.1.key? = s.key? ∧
      (s.flush files).1.1.output (s.flush files).1.2 = s.output files := by
  cases s with
  | device d =>
    refine ⟨rfl, ?_⟩
    show d.flush.1.taken.toList = d.taken.toList
    unfold Device.flush
    dsimp only
    split <;> rfl
  | file f =>
    refine ⟨congrArg some (f.key_flush files), ?_⟩
    show ((f.flush files).1.content (f.flush files).2).toList = _
    rw [f.content_flush (hs f.key rfl)]
    rfl

end Sink

def WriteReply.Willing : WriteReply → Prop
  | all => True
  | atMost n => n ≠ 0
  | interrupted => True
  | failed _ => False

theorem Transfer.run_of_willing {replies : List WriteReply} (h : ∀ r ∈ replies, r.Willing)
    (bytes : List UInt8) :
    (run replies bytes).failure = none ∧ ∀ r ∈ (run replies bytes).replies, r.Willing := by
  fun_induction run replies bytes with
  | case1 replies => exact ⟨rfl, h⟩
  | case2 => exact ⟨rfl, List.forall_mem_nil _⟩
  | case3 replies bytes _ => exact ⟨rfl, (List.forall_mem_cons.1 h).2⟩
  | case4 replies bytes _ => exact absurd rfl (List.forall_mem_cons.1 h).1
  | case5 replies bytes _ n _ t ih => exact ih (List.forall_mem_cons.1 h).2
  | case6 replies bytes _ t ih => exact ih (List.forall_mem_cons.1 h).2
  | case7 replies bytes _ reason => exact absurd (List.forall_mem_cons.1 h).1 id

namespace Sink

/-- A device that takes a part of what is left whenever it is not interrupted, and every flush; or a
file. -/
def Willing : Sink → Prop
  | device d => (∀ r ∈ d.writes, r.Willing) ∧ ∀ r ∈ d.flushes, r = .done
  | file _ => True

theorem Willing.write {s : Sink} (hs : s.Willing) (files : FileTree) (bytes : List UInt8) :
    (s.write files bytes).2 = none ∧ (s.write files bytes).1.1.Willing := by
  cases s with
  | device d =>
    obtain ⟨hnone, hrest⟩ := Transfer.run_of_willing hs.1 bytes
    exact ⟨hnone, hrest, hs.2⟩
  | file f => exact ⟨rfl, trivial⟩

theorem Willing.flush {s : Sink} (hs : s.Willing) (files : FileTree) :
    (s.flush files).2 = none ∧ (s.flush files).1.1.Willing := by
  cases s with
  | device d =>
    obtain ⟨writes, flushes, taken, writeCalls, flushCalls⟩ := d
    cases flushes with
    | nil => exact ⟨rfl, hs⟩
    | cons r rest =>
      obtain ⟨hr, hrest⟩ := List.forall_mem_cons.1 hs.2
      obtain rfl : r = .done := hr
      exact ⟨rfl, hs.1, hrest⟩
  | file f => exact ⟨rfl, trivial⟩

end Sink

namespace Mirror

def output (m : Mirror) (files : FileTree) : List UInt8 := m.sink.output files

/-- Not switched off, and writing to something that can be written to. -/
structure Fit (m : Mirror) : Prop where
  enabled : m.disabled = false
  proper : m.sink.Proper

def ask (s : Sink) (files : FileTree) : MirrorCall → (Sink × FileTree) × Option String
  | .record e => s.write files e.lineBytes
  | .flush => s.flush files

theorem act_eq_perform (m : Mirror) (files : FileTree) (c : MirrorCall) :
    m.act files c = m.perform files (ask · · c) := by
  cases c <;> rfl

/-- What the writer reports in the course of a number of calls. -/
def complaints (m : Mirror) (files : FileTree) : List MirrorCall → List String
  | [] => []
  | c :: calls =>
    (ask m.sink files c).2.toList ++ (m.act files c).mirror.complaints (m.act files c).files calls

theorem acts_append (m : Mirror) (files : FileTree) (as bs : List MirrorCall) :
    m.acts files (as ++ bs) = (m.acts files as).1.acts (m.acts files as).2 bs := by
  induction as generalizing m files with
  | nil => rfl
  | cons c as ih => exact ih _ _

theorem act_of_on {m : Mirror} (h : m.disabled = false) (files : FileTree) (c : MirrorCall) :
    m.act files c =
      let asked := ask m.sink files c
      let tracked := { m with sink := asked.1.1 }.track asked.2
      ⟨tracked.1, asked.1.2, tracked.2⟩ :=
  (m.act_eq_perform files c).trans (if_neg (by rw [h]; exact Bool.false_ne_true))

theorem act_of_disabled {m : Mirror} (h : m.disabled = true) (files : FileTree) (c : MirrorCall) :
    m.act files c = ⟨m, files, []⟩ :=
  (m.act_eq_perform files c).trans (perform_of_disabled h files _)

theorem sink_act {m : Mirror} (h : m.disabled = false) (files : FileTree) (c : MirrorCall) :
    (m.act files c).mirror.sink = (ask m.sink files c).1.1 ∧
      (m.act files c).files = (ask m.sink files c).1.2 := by
  rw [act_of_on h]
  exact ⟨sink_track _ _, rfl⟩

theorem act_of_quiet {m : Mirror} (hm : m.Fit) {files : FileTree} {c : MirrorCall}
    (hc : (ask m.sink files c).2 = none) :
    (m.act files c).mirror = { m with sink := (ask m.sink files c).1.1, failures := 0 } ∧
      (m.act files c).files = (ask m.sink files c).1.2 := by
  rw [act_of_on hm.enabled]
  simp [hc, track]

theorem ask_of_quiet {s : Sink} (hs : s.Proper) {files : FileTree} {c : MirrorCall}
    (hc : (ask s files c).2 = none) :
    (ask s files c).1.1.key? = s.key? ∧
      (ask s files c).1.1.output (ask s files c).1.2 =
        s.output files ++ c.recorded.flatMap Entry.lineBytes := by
  cases c with
  | record e =>
    rw [MirrorCall.recorded, List.flatMap_singleton]
    exact Sink.write_of_quiet hs hc
  | flush =>
    rw [MirrorCall.recorded, List.flatMap_nil, List.append_nil]
    exact Sink.flush_keeps hs files

theorem complaints_of_willing {m : Mirror} (hm : m.sink.Willing) (files : FileTree)
    (calls : List MirrorCall) :
    m.complaints files calls = [] := by
  induction calls generalizing m files with
  | nil => rfl
  | cons c calls ih =>
    have hask : (ask m.sink files c).2 = none ∧ (ask m.sink files c).1.1.Willing := by
      cases c with
      | record e => exact hm.write files e.lineBytes
      | flush => exact hm.flush files
    have hsink : (m.act files c).mirror.sink.Willing := by
      cases hd : m.disabled with
      | true => rw [act_of_disabled hd]; exact hm
      | false => rw [(sink_act hd files c).1]; exact hask.2
    rw [complaints, hask.1, ih hsink]
    rfl

/-- A mirror whose writer does not complain has a line for each entry it was given. -/
theorem acts_of_quiet {m : Mirror} (hm : m.Fit) {files : FileTree} {calls : List MirrorCall}
    (hc : m.complaints files calls = []) :
    (m.acts files calls).1.Fit ∧ (m.acts files calls).1.sink.key? = m.sink.key? ∧
      (m.acts files calls).1.output (m.acts files calls).2 =
        m.output files ++ (calls.flatMap MirrorCall.recorded).flatMap Entry.lineBytes := by
  induction calls generalizing m files with
  | nil => exact ⟨hm, rfl, (List.append_nil _).symm⟩
  | cons c calls ih =>
    obtain ⟨hnow, hlater⟩ := List.append_eq_nil_iff.1 hc
    have hquiet : (ask m.sink files c).2 = none := Option.toList_eq_nil_iff.1 hnow
    obtain ⟨hkey, hout⟩ := ask_of_quiet hm.proper hquiet
    obtain ⟨hmirror, hfiles⟩ := act_of_quiet hm hquiet
    have hfit : (m.act files c).mirror.Fit := by
      rw [hmirror]
      exact ⟨hm.enabled, fun key hk => hm.proper key (hkey ▸ hk)⟩
    obtain ⟨hfit', hkey', hout'⟩ := ih hfit hlater
    refine ⟨hfit', hkey'.trans ((congrArg (Sink.key? ·.sink) hmirror).trans hkey), ?_⟩
    rw [List.flatMap_cons, List.flatMap_append, ← List.append_assoc]
    refine hout'.trans ?_
    rw [output, output, hmirror, hfiles]
    exact congrArg (· ++ _) hout

theorem files_act_flush {m : Mirror} (hm : m.Fit) {key : FileKey} (hk : m.sink.key? = some key)
    (files : FileTree) :
    (m.act files .flush).files = m.close files := by
  obtain ⟨f, hf, -⟩ := Sink.exists_file_of_key? hk
  have hquiet : (ask m.sink files .flush).2 = none := by rw [hf]; rfl
  rw [(act_of_quiet hm hquiet).2, close, hf]
  rfl

/-- Closing a mirror leaves in its file all that was written to it, also if other files were made
meanwhile. -/
theorem content_close {m m' : Mirror} {before files : FileTree} {bytes : List UInt8}
    (hfit : m'.Fit) (hkey : m'.sink.key? = m.sink.key?)
    (hout : m'.output files = m.output before ++ bytes) {f : FileSink} (hf : m.sink = .file f)
    {t : FileTree} (ht : ∀ k, t.content k = files.content k) :
    ((m'.close t).content f.key).toList = (f.content before).toList ++ bytes := by
  obtain ⟨f', hf', hk⟩ := Sink.exists_file_of_key? (hkey.trans (congrArg Sink.key? hf))
  have hfree : f'.key.isFixed = false := hfit.proper f'.key (congrArg Sink.key? hf')
  rw [output, output, hf, hf'] at hout
  rw [close, hf', ← hk]
  show ((f'.flush t).2.content f'.key).toList = _
  rw [f'.content_of_flush hfree, FileSink.content, ht]
  exact hout

end Mirror

namespace Pipeline

/-- A delivery that a subscriber blocks does not come to its flush. -/
def flushCalls (p : Pipeline) : List MirrorCall := if p.handOver.blocked then [] else [.flush]

def flushes (p : Pipeline) : LogStep → List MirrorCall
  | .deliver _ => p.flushCalls
  | .work w => (p.served w).flatMap fun _ => p.flushCalls
  | _ => []

/-- What a log asks its mirror for in a step. -/
def asked (p : Pipeline) (s : LogStep) : List MirrorCall :=
  (p.accepted s).map .record ++ p.flushes s

/-- What a step puts in the place of the mirror. -/
def installed (p : Pipeline) : LogStep → List (Option Mirror)
  | .setMirror mirror => [mirror]
  | .mirrorTo path =>
    match p.mirrorTo path with
    | .ok q => [q.mirror]
    | .error _ => []
  | _ => []

theorem recorded_flushCalls (p : Pipeline) : p.flushCalls.flatMap MirrorCall.recorded = [] := by
  unfold flushCalls
  split <;> rfl

theorem recorded_asked (p : Pipeline) (s : LogStep) :
    (p.asked s).flatMap MirrorCall.recorded = p.accepted s := by
  have hrecords : ∀ es : List Entry,
      (es.map MirrorCall.record).flatMap MirrorCall.recorded = es := by
    intro es
    rw [List.flatMap_map]
    exact List.flatMap_singleton' es
  have hflushes : (p.flushes s).flatMap MirrorCall.recorded = [] := by
    cases s with
    | deliver agent => exact p.recorded_flushCalls
    | work w =>
      rw [flushes, List.flatMap_assoc]
      simp [recorded_flushCalls]
    | _ => rfl
  rw [asked, List.flatMap_append, hrecords, hflushes, List.append_nil]

theorem recorded_along (p : Pipeline) (steps : List LogStep) :
    (along asked p steps).flatMap MirrorCall.recorded = along accepted p steps := by
  induction steps generalizing p with
  | nil => rfl
  | cons s steps ih => rw [along, along, List.flatMap_append, recorded_asked, ih]

section
variable {p : Pipeline} {m : Mirror} (hm : p.mirror = some m)
include hm

theorem onMirror_of_some (agent : Agent) (act : Mirror → FileTree → Mirror.Outcome) :
    (p.onMirror agent act).mirror = some (act m p.files).mirror ∧
      (p.onMirror agent act).files = (act m p.files).files := by
  unfold onMirror
  rw [hm]
  exact ⟨rfl, rfl⟩

theorem append_asks (level : Level) (event : EventKind) (payload : Payload) :
    (p.append level event payload).2.mirror =
        some (m.acts p.files (p.asked (.append level event payload))).1 ∧
      (p.append level event payload).2.files =
        (m.acts p.files (p.asked (.append level event payload))).2 := by
  cases h : p.level.allows level with
  | true =>
    have hasked : p.asked (.append level event payload) = [.record (p.entry event payload)] := by
      rw [asked, accepted, append_of_allowed h]
      rfl
    rw [hasked, append_of_allowed h]
    exact onMirror_of_some hm .caller (·.record · (p.entry event payload))
  | false =>
    have hasked : p.asked (.append level event payload) = [] := by
      rw [asked, accepted, append_of_not_allowed h]
      rfl
    rw [hasked, append_of_not_allowed h]
    exact ⟨hm, rfl⟩

theorem deliver_asks (agent : Agent) :
    (p.deliver agent).log.mirror = some (m.acts p.files p.flushCalls).1 ∧
      (p.deliver agent).log.files = (m.acts p.files p.flushCalls).2 := by
  unfold deliver flushCalls
  dsimp only
  cases p.handOver.blocked with
  | true => exact ⟨hm, rfl⟩
  | false => exact onMirror_of_some (p := p.drained agent) hm agent (·.flush ·)

/-- A step does to the mirror what it asks it for, unless it puts another in its place. -/
theorem perform_asks {s : LogStep} (hs : p.installed s = []) :
    (p.perform s).mirror = some (m.acts p.files (p.asked s)).1 ∧
      (p.perform s).files = (m.acts p.files (p.asked s)).2 := by
  cases s with
  | append level event payload => exact append_asks hm level event payload
  | message level text => exact append_asks hm level .message (.description text)
  | setMirror mirror => cases hs
  | mirrorTo path =>
    rw [installed] at hs
    cases ho : p.mirrorTo path with
    | ok q => rw [ho] at hs; cases hs
    | error error =>
      simp only [perform, ho]
      exact ⟨hm, rfl⟩
  | deliver agent => exact deliver_asks hm agent
  | work w =>
    rcases p.work_cases w with ⟨hserved, hw⟩ | ⟨hserved, diagnostics, hw⟩
    · rw [asked, flushes, hserved, List.flatMap_singleton, perform, hw]
      exact deliver_asks hm .worker
    · rw [asked, flushes, hserved, perform, hw]
      exact ⟨hm, rfl⟩
  | _ => exact ⟨hm, rfl⟩

end

theorem asked_of_flush {p : Pipeline} {s : LogStep} (h : .flush ∈ p.flushes s) :
    p.asked s = [.flush] ∧ p.installed s = [] := by
  have hcalls : .flush ∈ p.flushCalls → p.flushCalls = [.flush] := by
    unfold flushCalls
    split
    · exact fun hx => absurd hx List.not_mem_nil
    · exact fun _ => rfl
  cases s with
  | deliver agent => exact ⟨hcalls h, rfl⟩
  | work w =>
    rcases p.work_cases w with ⟨hserved, -⟩ | ⟨hserved, -⟩
    · rw [flushes, hserved, List.flatMap_singleton] at h
      refine ⟨?_, rfl⟩
      rw [asked, flushes, hserved, List.flatMap_singleton, hcalls h]
      rfl
    · rw [flushes, hserved] at h
      cases h
  | _ => cases h

theorem after_asks {p : Pipeline} {m : Mirror} (hm : p.mirror = some m) {steps : List LogStep}
    (hs : along installed p steps = []) :
    (p.after steps).mirror = some (m.acts p.files (along asked p steps)).1 ∧
      (p.after steps).files = (m.acts p.files (along asked p steps)).2 := by
  induction steps generalizing p m with
  | nil => exact ⟨hm, rfl⟩
  | cons s steps ih =>
    obtain ⟨hnow, hlater⟩ := List.append_eq_nil_iff.1 hs
    obtain ⟨hmirror, hfiles⟩ := perform_asks hm hnow
    obtain ⟨h₁, h₂⟩ := ih hmirror hlater
    rw [hfiles] at h₁ h₂
    rw [along, Mirror.acts_append]
    exact ⟨h₁, h₂⟩

/-- A mirror that was in place in one log has, in a later one, the lines of the entries that were
accepted in between; and a file has them all as soon as it is flushed, or another mirror or none
takes its place. -/
structure Copied (p : Pipeline) (m : Mirror) (es : List Entry) (q : Pipeline) : Prop where
  output : ∃ m', q.mirror = some m' ∧ m'.Fit ∧
    m'.output q.files = m.output p.files ++ es.flatMap Entry.lineBytes
  flushed {f : FileSink} (hf : m.sink = .file f) {s : LogStep} (hs : .flush ∈ q.flushes s) :
    ((q.perform s).files.content f.key).toList =
      (f.content p.files).toList ++ es.flatMap Entry.lineBytes
  dropped {f : FileSink} (hf : m.sink = .file f) (mirror : Option Mirror) :
    ((q.setMirror mirror).files.content f.key).toList =
      (f.content p.files).toList ++ es.flatMap Entry.lineBytes
  replaced {f : FileSink} (hf : m.sink = .file f) {path : String} {r : Pipeline}
    (hr : q.mirrorTo path = .ok r) :
    (r.files.content f.key).toList = (f.content p.files).toList ++ es.flatMap Entry.lineBytes

theorem copied_of_output {p q : Pipeline} {m m' : Mirror} {es : List Entry}
    (hq : q.mirror = some m') (hfit : m'.Fit) (hkey : m'.sink.key? = m.sink.key?)
    (hout : m'.output q.files = m.output p.files ++ es.flatMap Entry.lineBytes) :
    Copied p m es q := by
  refine ⟨⟨m', hq, hfit, hout⟩, ?_, ?_, ?_⟩
  · intro f hf s hs
    obtain ⟨hasked, hkept⟩ := asked_of_flush hs
    have hfiles := (perform_asks hq hkept).2
    rw [hasked] at hfiles
    have hflushed : (q.perform s).files = m'.close q.files :=
      hfiles.trans (Mirror.files_act_flush hfit (hkey.trans (congrArg Sink.key? hf)) q.files)
    rw [hflushed]
    exact Mirror.content_close hfit hkey hout hf fun k => rfl
  · intro f hf mirror
    rw [setMirror, hq]
    exact Mirror.content_close hfit hkey hout hf fun k => rfl
  · intro f hf path r hr
    unfold mirrorTo Mirror.openFile at hr
    cases ho : q.files.openAppend path with
    | error error => rw [ho] at hr; cases hr
    | ok opened =>
      obtain ⟨key, files⟩ := opened
      rw [ho] at hr
      cases hr
      simp only [setMirror, hq]
      exact Mirror.content_close hfit hkey hout hf (FileTree.content_openAppend ho).2

/-- A mirror stays in place, and its writer reports nothing. -/
structure Undisturbed (p : Pipeline) (m : Mirror) (steps : List LogStep) : Prop where
  mirror : p.mirror = some m
  fit : m.Fit
  kept : along installed p steps = []
  quiet : m.complaints p.files (along asked p steps) = []

theorem Undisturbed.copied {p : Pipeline} {m : Mirror} {steps : List LogStep}
    (h : p.Undisturbed m steps) {q : Pipeline} (hm : q.mirror = (p.after steps).mirror)
    (hf : q.files = (p.after steps).files) :
    Copied p m (along accepted p steps) q := by
  obtain ⟨hmirror, hfiles⟩ := after_asks h.mirror h.kept
  obtain ⟨hfit, hkey, hout⟩ := Mirror.acts_of_quiet h.fit h.quiet
  rw [recorded_along] at hout
  refine copied_of_output (hm.trans hmirror) hfit hkey ?_
  rw [hf, hfiles]
  exact hout

/-- A file that was opened for a mirror is as it was, but for what the mirror before wrote to it
when it was closed. -/
theorem mirrorTo_eq_ok {p q : Pipeline} {path : String} (h : p.mirrorTo path = .ok q) :
    ∃ m f, q.mirror = some m ∧ m.Fit ∧ m.sink = .file f ∧ f.path = path ∧
      f.content q.files = (p.setMirror none).files.content f.key := by
  unfold mirrorTo Mirror.openFile at h
  cases ho : p.files.openAppend path with
  | error error => rw [ho] at h; cases h
  | ok opened =>
    obtain ⟨key, files⟩ := opened
    rw [ho] at h
    cases h
    obtain ⟨hfree, hsame⟩ := FileTree.content_openAppend ho
    refine ⟨_, ⟨path, key, #[]⟩, rfl,
      ⟨rfl, fun k hk => Option.some.inj hk ▸ hfree⟩, rfl, rfl, ?_⟩
    refine Array.append_empty.trans ?_
    unfold setMirror
    dsimp only
    cases p.mirror with
    | none => exact hsame key
    | some old => exact old.sink.content_close_congr hsame key

theorem fit_ofDevice (d : Device) : (Mirror.ofDevice d).Fit :=
  ⟨rfl, fun _ hk => absurd hk (Option.some_ne_none _).symm⟩

end Pipeline
end SocksGateway
