import SocksGateway.Proofs.Files.Kinds
import SocksGateway.Proofs.Log.Leads

/-!
The files of a log. A mirror only ever writes to the file that was opened for it, so which files
there are depends on the paths that mirrors were opened at, and on no entry.
-/
namespace SocksGateway

namespace FileSink

theorem alike_flush {s : FileSink} {files : FileTree} (h : files.HasFile s.key) :
    (s.flush files).2.Alike files := by
  unfold flush
  split
  · exact .refl files
  · exact FileTree.alike_append h s.pending

theorem alike_write {s : FileSink} {files : FileTree} (h : files.HasFile s.key)
    (bytes : List UInt8) :
    (s.write files bytes).2.Alike files := by
  have hflushed := alike_flush h
  have hthere : (s.flush files).2.HasFile (s.flush files).1.key := by
    rw [key_flush]
    exact h.alike hflushed.symm
  unfold write
  by_cases hf : s.pending.size + bytes.length ≤ capacity
  · simp only [hf, if_true]
    split
    · exact .refl files
    · exact FileTree.alike_append h _
  · simp only [hf, if_false]
    split
    · exact hflushed
    · exact (FileTree.alike_append hthere _).trans hflushed

end FileSink

namespace Mirror

/-- The file that a mirror writes to, if it writes to one, is there. -/
def Rooted (m : Mirror) (files : FileTree) : Prop :=
  ∀ key, m.sink.key? = some key → files.HasFile key

variable {m : Mirror} {files : FileTree}

theorem Rooted.alike (h : m.Rooted files) {files' : FileTree} (ha : files.Alike files') :
    m.Rooted files' :=
  fun key hk => (h key hk).alike ha

theorem ask_alike (h : m.Rooted files) (c : MirrorCall) :
    (ask m.sink files c).1.1.key? = m.sink.key? ∧ (ask m.sink files c).1.2.Alike files := by
  unfold Rooted at h
  generalize m.sink = s at h
  cases s with
  | device d => cases c <;> exact ⟨rfl, .refl files⟩
  | file f =>
    cases c with
    | record e =>
      exact ⟨congrArg some (f.key_write files _), FileSink.alike_write (h f.key rfl) _⟩
    | flush => exact ⟨congrArg some (f.key_flush files), FileSink.alike_flush (h f.key rfl)⟩

theorem act_alike (h : m.Rooted files) (c : MirrorCall) :
    (m.act files c).mirror.Rooted (m.act files c).files ∧ (m.act files c).files.Alike files := by
  cases hd : m.disabled with
  | true => rw [act_of_disabled hd]; exact ⟨h, .refl files⟩
  | false =>
    obtain ⟨hsink, hfiles⟩ := sink_act hd files c
    obtain ⟨hkey, halike⟩ := ask_alike h c
    rw [hfiles]
    refine ⟨fun key hk => ?_, halike⟩
    rw [hsink, hkey] at hk
    exact (h key hk).alike halike.symm

theorem acts_alike (h : m.Rooted files) (calls : List MirrorCall) :
    (m.acts files calls).1.Rooted (m.acts files calls).2 ∧
      (m.acts files calls).2.Alike files := by
  induction calls generalizing m files with
  | nil => exact ⟨h, .refl files⟩
  | cons c calls ih =>
    obtain ⟨hrooted, halike⟩ := act_alike h c
    obtain ⟨hrest, htrans⟩ := ih hrooted
    exact ⟨hrest, htrans.trans halike⟩

theorem close_alike (h : m.Rooted files) : (m.close files).Alike files := by
  unfold Rooted at h
  unfold close
  generalize m.sink = s at h
  cases s with
  | device d => exact .refl files
  | file f => exact FileSink.alike_flush (h f.key rfl)

end Mirror

/-- A step that opens no file and puts no mirror of a file in place. -/
def LogStep.OpensNothing : LogStep → Prop
  | setMirror mirror => ∀ m, mirror = some m → m.sink.key? = none
  | mirrorTo _ => False
  | _ => True

namespace Pipeline

def Rooted (p : Pipeline) : Prop := ∀ m, p.mirror = some m → m.Rooted p.files

theorem rooted_of_unmirrored {p : Pipeline} (h : p.mirror = none) : p.Rooted := by
  intro m hm
  rw [h] at hm
  cases hm

theorem perform_of_unmirrored {p : Pipeline} (hm : p.mirror = none) {s : LogStep}
    (hs : p.installed s = []) :
    (p.perform s).mirror = none ∧ (p.perform s).files = p.files := by
  have honMirror : ∀ (q : Pipeline) agent act, q.mirror = none → q.onMirror agent act = q := by
    intro q agent act hq
    unfold onMirror
    rw [hq]
  have happend : ∀ level event payload, (p.append level event payload).2.mirror = none ∧
      (p.append level event payload).2.files = p.files := by
    intro level event payload
    unfold append
    split
    · unfold accept
      rw [honMirror p _ _ hm]
      exact ⟨hm, rfl⟩
    · exact ⟨hm, rfl⟩
  have hdeliver : ∀ agent, (p.deliver agent).log.mirror = none ∧
      (p.deliver agent).log.files = p.files := by
    intro agent
    unfold deliver
    dsimp only
    rw [honMirror (p.drained agent) _ _ hm, ite_self]
    exact ⟨hm, rfl⟩
  cases s with
  | append level event payload => exact happend level event payload
  | message level text => exact happend level .message (.description text)
  | setMirror mirror => cases hs
  | mirrorTo path =>
    rw [installed] at hs
    cases ho : p.mirrorTo path with
    | ok q => rw [ho] at hs; cases hs
    | error error =>
      simp only [perform, ho]
      exact ⟨hm, trivial⟩
  | deliver agent => exact hdeliver agent
  | work w =>
    rcases p.work_cases w with ⟨-, hw⟩ | ⟨-, diagnostics, hw⟩
    · rw [perform, hw]
      exact hdeliver .worker
    · rw [perform, hw]
      exact ⟨hm, rfl⟩
  | _ => exact ⟨hm, rfl⟩

theorem rooted_setMirror {p : Pipeline} (h : p.Rooted) {mirror : Option Mirror}
    (hm : ∀ m, mirror = some m → m.Rooted p.files) :
    (p.setMirror mirror).Rooted ∧ (p.setMirror mirror).files.Alike p.files := by
  have halike : (p.setMirror mirror).files.Alike p.files := by
    unfold setMirror
    cases hold : p.mirror with
    | none => exact .refl p.files
    | some old => exact Mirror.close_alike (h old hold)
  exact ⟨fun m hx => (hm m hx).alike halike.symm, halike⟩

theorem rooted_perform {p : Pipeline} (h : p.Rooted) {s : LogStep} (hs : s.OpensNothing) :
    (p.perform s).Rooted ∧ (p.perform s).files.Alike p.files := by
  have hkept : p.installed s = [] →
      (p.perform s).Rooted ∧ (p.perform s).files.Alike p.files := by
    intro hi
    cases hm : p.mirror with
    | none =>
      obtain ⟨hmirror, hfiles⟩ := perform_of_unmirrored hm hi
      refine ⟨rooted_of_unmirrored hmirror, ?_⟩
      rw [hfiles]
      exact .refl p.files
    | some m =>
      obtain ⟨hmirror, hfiles⟩ := perform_asks hm hi
      obtain ⟨hrooted, halike⟩ := Mirror.acts_alike (h m hm) (p.asked s)
      rw [hfiles]
      refine ⟨fun m' hm' => ?_, halike⟩
      rw [hmirror] at hm'
      cases hm'
      rw [hfiles]
      exact hrooted
  cases s with
  | setMirror mirror =>
    refine rooted_setMirror h fun m hm key hk => ?_
    rw [hs m hm] at hk
    cases hk
  | mirrorTo path => exact hs.elim
  | _ => exact hkept rfl

theorem rooted_after {p : Pipeline} (h : p.Rooted) {steps : List LogStep}
    (hs : ∀ s ∈ steps, s.OpensNothing) :
    (p.after steps).Rooted ∧ (p.after steps).files.Alike p.files := by
  induction steps generalizing p with
  | nil => exact ⟨h, .refl p.files⟩
  | cons s steps ih =>
    obtain ⟨hfirst, hrest⟩ := List.forall_mem_cons.1 hs
    obtain ⟨hrooted, halike⟩ := rooted_perform h hfirst
    obtain ⟨hlast, htrans⟩ := ih hrooted hrest
    exact ⟨hlast, htrans.trans halike⟩

theorem rooted_of_leads {p q : Pipeline} {steps : List LogStep} (hl : p.Leads steps q)
    (h : p.Rooted) (hs : ∀ s ∈ steps, s.OpensNothing) : q.Rooted ∧ q.files.Alike p.files := by
  obtain ⟨hrooted, halike⟩ := rooted_after h hs
  rw [hl.files]
  refine ⟨fun m hm => ?_, halike⟩
  rw [hl.mirror] at hm
  rw [hl.files]
  exact hrooted m hm

theorem mirrorTo_of_openAppend {p : Pipeline} (h : p.Rooted) {path : String} {key : FileKey}
    {u : FileTree} (ho : p.files.openAppend path = .ok (key, u)) :
    ∃ q, p.mirrorTo path = .ok q ∧ q.Rooted ∧ q.files.Alike u := by
  obtain ⟨hkey, hkept⟩ := FileTree.hasFile_openAppend ho
  let opening : Diagnostic := ⟨.debug, "Log mirror opened at " ++ Quoted.string path, .caller⟩
  let opened : Pipeline := { p with files := u, diagnostics := p.diagnostics ++ [opening] }
  let mirror : Mirror := ⟨.file ⟨path, key, #[]⟩, 0, false⟩
  have hopened : opened.Rooted := fun m hm k hk => hkept k (h m hm k hk)
  have hto : p.mirrorTo path = .ok (opened.setMirror (some mirror)) := by
    unfold mirrorTo Mirror.openFile
    rw [ho]
    rfl
  refine ⟨_, hto, rooted_setMirror hopened fun m hm k hk => ?_⟩
  cases hm
  cases hk
  exact hkey

/-- Logs with the same files, whose mirrors find theirs. -/
structure SameFiles (p q : Pipeline) : Prop where
  files : p.files.Alike q.files
  left : p.Rooted
  right : q.Rooted

namespace SameFiles

variable {p q : Pipeline}

theorem symm (h : p.SameFiles q) : q.SameFiles p := ⟨h.files.symm, h.right, h.left⟩

theorem trans (h : p.SameFiles q) {r : Pipeline} (h' : q.SameFiles r) : p.SameFiles r :=
  ⟨h.files.trans h'.files, h.left, h'.right⟩

theorem of_leads (h : p.SameFiles q) {p' q' : Pipeline} {as bs : List LogStep}
    (hp : p.Leads as p') (has : ∀ s ∈ as, s.OpensNothing) (hq : q.Leads bs q')
    (hbs : ∀ s ∈ bs, s.OpensNothing) : p'.SameFiles q' := by
  obtain ⟨hleft, hfiles⟩ := rooted_of_leads hp h.left has
  obtain ⟨hright, hfiles'⟩ := rooted_of_leads hq h.right hbs
  exact ⟨(hfiles.trans h.files).trans hfiles'.symm, hleft, hright⟩

theorem mirrorTo (h : p.SameFiles q) (path : String) :
    (∃ error, p.mirrorTo path = .error error ∧ q.mirrorTo path = .error error) ∨
    ∃ p' q', p.mirrorTo path = .ok p' ∧ q.mirrorTo path = .ok q' ∧ p'.SameFiles q' := by
  rcases FileTree.openAppend_alike h.files path with
    ⟨error, hp, hq⟩ | ⟨key, u, u', hp, hq, halike⟩
  · have hfailed : ∀ {r : Pipeline}, r.files.openAppend path = .error error →
        r.mirrorTo path = .error error := by
      intro r hr
      unfold Pipeline.mirrorTo Mirror.openFile
      rw [hr]
      rfl
    exact .inl ⟨error, hfailed hp, hfailed hq⟩
  · obtain ⟨p', hp', hleft, hfiles⟩ := mirrorTo_of_openAppend h.left hp
    obtain ⟨q', hq', hright, hfiles'⟩ := mirrorTo_of_openAppend h.right hq
    exact .inr ⟨p', q', hp', hq', (hfiles.trans halike).trans hfiles'.symm, hleft, hright⟩

end SameFiles
end Pipeline
end SocksGateway
