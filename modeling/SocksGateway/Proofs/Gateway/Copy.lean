import Mathlib
import SocksGateway.Proofs.Gateway.LogSteps
import SocksGateway.Proofs.Log.Copy

/-!
The mirror of a gateway. From its building on, whatever happens to a gateway comes to steps of its
log, so its mirror is a copy of what the log accepts as any log's mirror is.
-/
namespace SocksGateway

/-- What happens to a gateway: a step of its building, a call, or a step of its log that somebody
else takes, with its worker anywhere in its work afterwards. -/
inductive Occurrence
  | building (s : BuildStep)
  | call (op : Operation)
  | log (s : LogStep) (worker : Option DrainWorker)

namespace Gateway

def meet (g : Gateway) : Occurrence → Gateway
  | .building s => (g.take s).2
  | .call op => (g.perform op).2
  | .log s worker => { g.withLog (g.log.perform s) with worker }

def stepsOf (g : Gateway) : Occurrence → List LogStep
  | .building (.mirror path) => [.mirrorTo path]
  | .building (.register s) => g.registerSteps s.endpoint s.protocols
  | .building (.change c) => g.changeSteps c
  | .call op => g.logSteps op
  | .log s _ => [s]

def lived (g : Gateway) (xs : List Occurrence) : Gateway := xs.foldl meet g

def chronicle (g : Gateway) : List Occurrence → List LogStep
  | [] => []
  | x :: xs => g.stepsOf x ++ (g.meet x).chronicle xs

theorem leads_meet (g : Gateway) (x : Occurrence) : g.log.Leads (g.stepsOf x) (g.meet x).log := by
  cases x with
  | building s =>
    cases s with
    | mirror path =>
      have h : (g.take (.mirror path)).2.log = g.log.perform (.mirrorTo path) := by
        simp only [take, mirrorTo, Pipeline.perform]
        cases g.log.mirrorTo path <;> rfl
      show g.log.Leads _ (g.take (.mirror path)).2.log
      rw [h]
      exact .step g.log (.mirrorTo path)
    | register s => exact g.leads_register s.endpoint s.protocols s.credentials s.start
    | change c => exact g.leads_change c
  | call op => exact g.leads_perform op
  | log s worker => exact .step g.log s

theorem leads_lived (g : Gateway) (xs : List Occurrence) :
    g.log.Leads (g.chronicle xs) (g.lived xs).log := by
  induction xs generalizing g with
  | nil => exact .refl g.log
  | cons x xs ih => exact (g.leads_meet x).trans (ih _)

theorem lived_append (g : Gateway) (xs ys : List Occurrence) :
    g.lived (xs ++ ys) = (g.lived xs).lived ys :=
  List.foldl_append

theorem log_flush_of_waiting {g : Gateway} {w : DrainWorker} (hw : g.worker = some w)
    (hp : w.phase = .waiting) :
    g.flush.log.silent = (g.log.deliver .worker).log.silent := by
  obtain ⟨f, shutdown, phase⟩ := w
  obtain rfl : phase = .waiting := hp
  have hturn : (DrainWorker.mk true shutdown .waiting).turn g.log =
      (DrainWorker.mk false shutdown
        (DrainWorker.afterDelivery shutdown (g.log.deliver .worker))).step
        (g.log.deliver .worker).log := rfl
  rw [flush, hw]
  show ((DrainWorker.mk true shutdown .waiting).turn g.log).2.silent = _
  rw [hturn, DrainWorker.afterDelivery]
  cases (g.log.deliver .worker).blocked with
  | true => rfl
  | false => cases shutdown <;> rfl

end Gateway

namespace Origin

/-- The gateway that a building starts with. -/
def blank (relay : Relay) (files : FileTree) : Origin → Gateway
  | options o => .create o relay files
  | config c => .create c.options relay files

def building : Origin → List Occurrence
  | options _ => []
  | config c => c.steps.map .building

end Origin

namespace Gateway

theorem lived_of_takeAll {g g' : Gateway} {steps : List BuildStep}
    (h : g.takeAll steps = (.ok (), g')) :
    g' = g.lived (steps.map .building) := by
  induction steps generalizing g with
  | nil => cases h; rfl
  | cons s steps ih =>
    rw [takeAll] at h
    split at h
    next m hm =>
      have hs : (g.take s).2 = m := by rw [hm]
      rw [ih h, ← hs]
      rfl
    next hfailed => exact absurd h (hfailed g')

theorem lived_of_build {o : Origin} {relay : Relay} {files : FileTree} {g : Gateway}
    (h : o.build relay files = .ok g) : g = (o.blank relay files).lived o.building := by
  cases o with
  | options o => cases h; rfl
  | config c =>
    have hb : ofConfig c relay files = .ok g := h
    obtain ⟨hv, -⟩ := ofConfig_eq_ok hb
    rw [ofConfig_eq_finished hv] at hb
    exact lived_of_takeAll (finished_eq_ok_iff.1 hb)

/-- The copy that the mirror of a gateway is after all that happened to it. A file is complete once
the gateway's worker had its turn, and at the end of the gateway. -/
structure Mirrored (g : Gateway) (xs : List Occurrence) (p : Pipeline) (m : Mirror)
    (es : List Entry) : Prop where
  copied : p.Copied m es (g.lived xs).log
  flushed {f : FileSink} (hf : m.sink = .file f) {w : DrainWorker}
    (hw : (g.lived xs).worker = some w)
    (hp : w.phase = .waiting) (hb : ((g.lived xs).log.deliver .worker).blocked = false) :
    ((g.lived xs).flush.log.files.content f.key).toList =
      (f.content p.files).toList ++ es.flatMap Entry.lineBytes
  finished {f : FileSink} (hf : m.sink = .file f) {ys : List Occurrence}
    (hys : xs = ys ++ [.call .stop]) :
    ((g.lived ys).finish.log.files.content f.key).toList =
      (f.content p.files).toList ++ es.flatMap Entry.lineBytes

theorem mirrored_of_copied {g : Gateway} {xs : List Occurrence} {p : Pipeline} {m : Mirror}
    {es : List Entry} (h : p.Copied m es (g.lived xs).log) : g.Mirrored xs p m es := by
  refine ⟨h, fun hf w hw hp hb => ?_, fun hf ys hys => ?_⟩
  · have hfiles := congrArg (·.files) (log_flush_of_waiting hw hp)
    change (g.lived xs).flush.log.files = ((g.lived xs).log.deliver .worker).log.files at hfiles
    rw [hfiles]
    refine h.flushed hf (s := .deliver .worker) ?_
    rw [Pipeline.flushes, Pipeline.flushCalls,
      show (g.lived xs).log.handOver.blocked = false from hb]
    exact List.mem_singleton_self _
  · have hlast : g.lived xs = (g.lived ys).stop := by rw [hys, lived_append]; rfl
    have hdropped := h.dropped hf none
    rw [hlast] at hdropped
    exact hdropped

/-- A mirror is a complete and ordered copy. Whatever becomes of the entries of a log, and however
its writer takes the bytes as long as it reports nothing, a mirror that stays in place gets the
lines of the accepted entries, one after the other, and nothing else; and so does the mirror of a
gateway, from its building to its end. A file has them behind what it had before as soon as it is
flushed, or the mirror is dropped. -/
theorem mirror_complete :
    (∀ (p : Pipeline) (m : Mirror) (steps : List LogStep), p.Undisturbed m steps →
      p.Copied m (Pipeline.along Pipeline.accepted p steps) (p.after steps)) ∧
    (∀ (o : Origin) (relay : Relay) (files : FileTree) (g : Gateway),
      o.build relay files = .ok g →
      ∀ (xs : List Occurrence) (steps : List LogStep),
        steps = (o.blank relay files).chronicle (o.building ++ xs) →
        (o.blank relay files).log.Leads steps (g.lived xs).log ∧
        ∀ before during p m, steps = before ++ during →
          p = (o.blank relay files).log.after before →
          p.Undisturbed m during →
            g.Mirrored xs p m (Pipeline.along Pipeline.accepted p during)) ∧
    (∀ (p q : Pipeline) (path : String), p.mirrorTo path = .ok q →
      ∃ m f, q.mirror = some m ∧ m.Fit ∧ m.sink = .file f ∧ f.path = path ∧
        f.content q.files = (p.setMirror none).files.content f.key) ∧
    ∀ (m : Mirror) (files : FileTree) (calls : List MirrorCall), m.sink.Willing →
      m.complaints files calls = [] := by
  refine ⟨fun p m steps h => h.copied rfl rfl, fun o relay files g hg xs steps hsteps => ?_,
    fun _ _ _ => Pipeline.mirrorTo_eq_ok, fun _ files calls h =>
      Mirror.complaints_of_willing h files calls⟩
  have hlived : g.lived xs = (o.blank relay files).lived (o.building ++ xs) := by
    rw [lived_append, ← lived_of_build hg]
  have hleads := (o.blank relay files).leads_lived (o.building ++ xs)
  rw [← hlived, ← hsteps] at hleads
  refine ⟨hleads, fun before during p m hsplit hp h => mirrored_of_copied (h.copied ?_ ?_)⟩
  · rw [hleads.mirror, hsplit, Pipeline.after_append, hp]
  · rw [hleads.files, hsplit, Pipeline.after_append, hp]

theorem mirror_complete_of_parts :
    let entry (text : String) : Entry := ⟨0, .message, .description text⟩
    let m : Mirror := .ofDevice { writes := [.atMost 3, .interrupted, .all] }
    let p : Pipeline := { ring := Ring.empty 1, mirror := some m }
    let steps : List LogStep := [.message .info "a", .message .debug "b", .take, .message .info "c",
      .message .info "d", .deliver .caller]
    let files : FileTree := { nodes := [(["log"], .file #[62])] }
    let g := create {} .accepting files
    let ys : List Occurrence := [.call (.setLogMirror "log"), .call .start]
    (∃ m', (p.after steps).mirror = some m' ∧
      m'.output (p.after steps).files =
        [entry "a", entry "c", entry "d"].flatMap Entry.lineBytes) ∧
    ((g.lived ys).finish.log.files.content ["log"]).toList =
      62 :: [entry "Gateway started (0 proxy start failures)",
        entry "Gateway stopped, 0 proxies torn down"].flatMap
        Entry.lineBytes := by
  intro entry m p steps files g ys
  obtain ⟨hpipeline, hgateway, hopened, hwilling⟩ := mirror_complete
  constructor
  · have hparts : m.sink.Willing := by simp [m, Mirror.ofDevice, Sink.Willing, WriteReply.Willing]
    have hquiet : p.Undisturbed m steps :=
      ⟨rfl, Pipeline.fit_ofDevice _, by decide +kernel, hwilling m {} _ hparts⟩
    obtain ⟨m', hm', -, hout⟩ := (hpipeline p m steps hquiet).output
    have haccepted : Pipeline.along Pipeline.accepted p steps =
        [entry "a", entry "c", entry "d"] := by decide +kernel
    have hempty : m.output p.files = [] := rfl
    rw [haccepted, hempty, List.nil_append] at hout
    exact ⟨m', hm', hout⟩
  · let copy : Mirror := ⟨.file ⟨"log", ["log"], #[]⟩, 0, false⟩
    let opening : Diagnostic :=
      ⟨.debug, "Log mirror opened at " ++ Quoted.string "log", .caller⟩
    let q : Pipeline := { g.log with mirror := some copy, diagnostics := #[opening] }
    have hopen : files.openAppend "log" = .ok (["log"], files) := by cbv
    have hto : g.log.mirrorTo "log" = .ok q := by
      rw [Pipeline.mirrorTo, Mirror.openFile, show g.log.files = files from rfl, hopen]
      rfl
    have hmeet : g.meet (.call (.setLogMirror "log")) = g.withLog q := by
      rw [meet, perform, mirrorTo, hto]
      rfl
    have hafter : g.log.after [.mirrorTo "log"] = q := by
      show g.log.perform (.mirrorTo "log") = q
      rw [Pipeline.perform, hto]
    let during := (g.withLog q).chronicle [.call .start, .call .stop]
    have hsteps : g.chronicle (ys ++ [.call .stop]) = [.mirrorTo "log"] ++ during := by
      show [.mirrorTo "log"] ++ (g.meet (.call (.setLogMirror "log"))).chronicle
          [.call .start, .call .stop] = _
      rw [hmeet]
    have hfit : copy.Fit := ⟨rfl, fun key hk => by cases hk; decide⟩
    have hquiet : q.Undisturbed copy during :=
      ⟨rfl, hfit, by decide +kernel, hwilling copy _ _ trivial⟩
    obtain ⟨-, hcopies⟩ :=
      hgateway (.options {}) .accepting files g rfl (ys ++ [.call .stop]) _ rfl
    have hmirrored := hcopies [.mirrorTo "log"] during q copy hsteps hafter.symm hquiet
    have haccepted : Pipeline.along Pipeline.accepted q during =
        [entry "Gateway started (0 proxy start failures)",
      entry "Gateway stopped, 0 proxies torn down"] := by decide +kernel
    rw [haccepted] at hmirrored
    exact hmirrored.finished rfl rfl

end Gateway
end SocksGateway
