import SocksGateway.Gateway.Shared
import SocksGateway.Proofs.Gateway.LastBatch
import SocksGateway.Proofs.Gateway.Lifecycle

namespace SocksGateway

/-- What is asked of the shared gateway or of whoever holds it, and what goes on in its log and its
worker meanwhile. -/
inductive SharedCall
  | acquire (holder : String) (o : GatewayOptions) (relay : Relay) (files : FileTree)
  | current (holder : String)
  | share (holder other : String)
  | release (holder : String)
  | operate (holder : String) (op : Operation)
  | background (change : Pipeline → Option DrainWorker → Pipeline × Option DrainWorker)

namespace SharedCall

/-- A gateway whose worker was at rest is left so. -/
def Orderly : SharedCall → Prop
  | background change => ∀ g : Gateway, g.Attended → (g.next (.logging change)).Attended
  | _ => True

def elapse (clock : UInt64) (wakes : Bool) : SharedCall :=
  background fun log worker =>
    let log := { log with clock }
    match worker with
    | none => (log, none)
    | some w =>
      if wakes then
        let (w, log) := w.turn log
        (log, some w)
      else (log, some w)

theorem turn_of_waiting {w : DrainWorker} (h : w.phase = .waiting) (log : Pipeline) :
    w.turn log = w.requestFlush.turn log := by
  obtain ⟨flush, shutdown, phase⟩ := w
  obtain rfl : phase = .waiting := h
  rfl

theorem turn_of_stuck {w : DrainWorker} (h : w.phase = .stuck) (log : Pipeline) :
    w.turn log = (w, log) := by
  obtain ⟨flush, shutdown, phase⟩ := w
  obtain rfl : phase = .stuck := h
  rfl

theorem orderly_elapse (clock : UInt64) (wakes : Bool) : (elapse clock wakes).Orderly := by
  intro g hg
  let g' : Gateway := g.withLog { g.log with clock }
  have hg' : g'.Attended := hg.congr rfl rfl (List.Subset.refl _)
  unfold Gateway.next
  dsimp only
  cases hw : g.worker with
  | none => exact hg'.congr rfl hw.symm (List.Subset.refl _)
  | some w =>
    cases wakes with
    | false => exact hg'.congr rfl hw.symm (List.Subset.refl _)
    | true =>
      simp only [if_true]
      rcases hg.phase w hw with hp | ⟨hp, -⟩
      · have hflush := Gateway.attended_flush hg'
        rw [Gateway.flush, show g'.worker = some w from hw] at hflush
        rw [turn_of_waiting hp]
        exact hflush
      · rw [turn_of_stuck hp]
        exact hg'.congr rfl hw.symm (List.Subset.refl _)

end SharedCall

namespace Gateway

/-- The end of a gateway is a stop if it is started, and closes no more than the mirror if it is
not. -/
structure Ends (g g' : Gateway) : Prop where
  stage : g'.stage ≠ .started
  stops (h : g.stage = .started) : g.Stops g'
  batch (h : g.stage = .started) (ha : g.Attended) : ∃ w, g.worker = some w ∧
    (g.acknowledges w = true → g'.log.pending = [] ∧
      g'.log.deliveries.toList = g.log.deliveries.toList ++ g.lastDeliveries) ∧
    ((∀ s ∈ g.log.subscribers, s.NeverBlocks) → g.acknowledges w = true)
  quiet (h : g.stage ≠ .started) : g' = g.withLog g.log.close ∧ g'.calls = g.calls ∧
    g'.log.deliveries = g.log.deliveries ∧ g'.log.pending = g.log.pending

theorem ends_finish (g : Gateway) : g.Ends g.finish := by
  constructor
  case stage => exact g.stage_stop
  case stops =>
    intro h
    obtain ⟨hcalls, hascending, hproxies⟩ := stops_of_started h
    exact ⟨hcalls, hascending, hproxies⟩
  case batch => exact fun h ha => last_batch_of_attended ha h
  case quiet =>
    intro h
    have hfinish : g.finish = g.withLog g.log.close := by rw [finish, stop_of_ne h]
    rw [hfinish]
    exact ⟨rfl, rfl, rfl, rfl⟩

/-- A gateway of which nothing is known but what it was made with. -/
structure Fresh (o : GatewayOptions) (relay : Relay) (g : Gateway) : Prop where
  stage : g.stage = .created
  unused : g.registry.proxies = [] ∧ g.policy.rules = [] ∧ g.log.pending = [] ∧
    g.log.subscribers = [] ∧
    g.log.mirror = none ∧ g.worker = none ∧ g.calls = #[]
  options : g.log.level = o.level ∧ g.log.limit = max o.logLimit 1 ∧
    g.log.interval = Pipeline.clampInterval o.logInterval ∧
      g.lan.enabled = o.bypassLan ∧ g.relay = relay

theorem fresh_create (o : GatewayOptions) (relay : Relay) (files : FileTree) :
    Fresh o relay (create o relay files) :=
  ⟨rfl, ⟨rfl, rfl, rfl, rfl, rfl, rfl, rfl⟩, ⟨rfl, rfl, rfl, rfl, rfl⟩⟩

end Gateway

namespace SharedGateway

def obey (s : SharedGateway) : SharedCall → SharedGateway
  | .acquire holder o relay files => s.acquireWith holder o relay files
  | .current holder => (s.current holder).2
  | .share holder other => s.share holder other
  | .release holder => (s.release holder).shared
  | .operate holder op =>
    if holder ∈ s.holders then { s with gateway := s.gateway.map (·.next (.call op)) } else s
  | .background change => { s with gateway := s.gateway.map (·.next (.logging change)) }

def after (s : SharedGateway) (calls : List SharedCall) : SharedGateway := calls.foldl obey s

def stepsOf (s : SharedGateway) : SharedCall → List Step
  | .operate holder op => if holder ∈ s.holders then [.call op] else []
  | .background change => [.logging change]
  | _ => []

def steps (s : SharedGateway) : List SharedCall → List Step
  | [] => []
  | c :: calls => s.stepsOf c ++ (s.obey c).steps calls

def ended? (s : SharedGateway) : SharedCall → Option Gateway
  | .release holder => (s.release holder).ended
  | _ => none

def endings (s : SharedGateway) : List SharedCall → List Gateway
  | [] => []
  | c :: calls => (s.ended? c).toList ++ (s.obey c).endings calls

theorem after_append (s : SharedGateway) (as bs : List SharedCall) :
    s.after (as ++ bs) = (s.after as).after bs :=
  List.foldl_append

theorem steps_append (s : SharedGateway) (as bs : List SharedCall) :
    s.steps (as ++ bs) = s.steps as ++ (s.after as).steps bs := by
  induction as generalizing s with
  | nil => rfl
  | cons c as ih =>
    rw [List.cons_append, steps, steps, ih, List.append_assoc]
    rfl

theorem endings_append (s : SharedGateway) (as bs : List SharedCall) :
    s.endings (as ++ bs) = s.endings as ++ (s.after as).endings bs := by
  induction as generalizing s with
  | nil => rfl
  | cons c as ih =>
    rw [List.cons_append, endings, endings, ih, List.append_assoc]
    rfl

/-- There is a gateway exactly while it is held, and nobody is listed twice. -/
structure Held (s : SharedGateway) : Prop where
  live : s.gateway.isSome = true ↔ s.holders ≠ []
  distinct : s.holders.Nodup

theorem held_empty : Held {} :=
  ⟨iff_of_false Bool.false_ne_true (not_not.2 rfl), List.nodup_nil⟩

theorem hold_ne_nil (s : SharedGateway) (holder : String) : s.hold holder ≠ [] := by
  unfold hold
  split
  next h => exact List.ne_nil_of_mem h
  next => simp

@[simp] theorem mem_hold {s : SharedGateway} {holder other : String} :
    other ∈ s.hold holder ↔ other = holder ∨ other ∈ s.holders := by
  unfold hold
  split
  next h => exact ⟨.inr, fun hx => hx.elim (fun he => he ▸ h) id⟩
  next => rw [List.mem_append, List.mem_singleton, or_comm]

theorem nodup_hold {s : SharedGateway} (h : s.holders.Nodup) (holder : String) :
    (s.hold holder).Nodup := by
  unfold hold
  split
  · exact h
  next hn =>
    exact List.nodup_append.2 ⟨h,
      List.nodup_singleton _, by simpa using fun a ha => ne_of_mem_of_not_mem ha hn⟩

theorem Held.eq_empty {s : SharedGateway} (hs : s.Held) (h : s.holders = []) : s = {} := by
  obtain ⟨holders, gateway⟩ := s
  obtain rfl : holders = [] := h
  cases gateway with
  | none => rfl
  | some g => exact absurd rfl (hs.live.1 rfl)

theorem Held.eq_empty_of_none {s : SharedGateway} (hs : s.Held) (hg : s.gateway = none) :
    s = {} := by
  refine hs.eq_empty (Classical.byContradiction fun hne => ?_)
  have hlive := hs.live.2 hne
  rw [hg] at hlive
  cases hlive

theorem Held.ne_nil {s : SharedGateway} (hs : s.Held) {g : Gateway} (hg : s.gateway = some g) :
    s.holders ≠ [] :=
  hs.live.1 (by rw [hg]; rfl)

theorem Held.exists_gateway {s : SharedGateway} (hs : s.Held) {holder : String}
    (hm : holder ∈ s.holders) :
    ∃ g, s.gateway = some g :=
  Option.isSome_iff_exists.1 (hs.live.2 (List.ne_nil_of_mem hm))

theorem Held.map {s : SharedGateway} (hs : s.Held) (f : Gateway → Gateway) :
    Held { s with gateway := s.gateway.map f } :=
  ⟨by rw [Option.isSome_map]; exact hs.live, hs.distinct⟩

theorem release_of_notMem {s : SharedGateway} (hs : s.Held) {holder : String}
    (hm : holder ∉ s.holders) :
    s.release holder = ⟨false, s, none⟩ := by
  have hrest : s.holders.filter (· != holder) = s.holders :=
    List.filter_eq_self.2 fun x hx => bne_iff_ne.2 (ne_of_mem_of_not_mem hx hm)
  unfold release
  dsimp only
  rw [hrest]
  split
  next h =>
    obtain rfl := hs.eq_empty (List.isEmpty_iff.1 h)
    rfl
  next => simp [hm]

theorem release_of_last {s : SharedGateway} {holder : String} (h : s.holders = [holder]) :
    s.release holder = ⟨true, {}, s.gateway.map (·.finish)⟩ := by
  simp [release, h]

theorem erase_ne_nil {s : SharedGateway} {holder : String} (hm : holder ∈ s.holders)
    (hne : s.holders ≠ [holder]) :
    s.holders.erase holder ≠ [] := by
  rw [Ne, List.erase_eq_nil_iff, not_or]
  exact ⟨List.ne_nil_of_mem hm, hne⟩

theorem release_of_more {s : SharedGateway} (hs : s.Held) {holder : String}
    (hm : holder ∈ s.holders) (hne : s.holders ≠ [holder]) :
    s.release holder = ⟨true, { s with holders := s.holders.erase holder }, none⟩ := by
  have hrest : s.holders.filter (· != holder) = s.holders.erase holder :=
    (hs.distinct.erase_eq_filter holder).symm
  have hnot := erase_ne_nil hm hne
  unfold release
  dsimp only
  rw [hrest, if_neg (by simpa using hnot)]
  simp [hm]

theorem release_cases {s : SharedGateway} (hs : s.Held) (holder : String) :
    (holder ∉ s.holders ∧ s.release holder = ⟨false, s, none⟩) ∨
    (s.holders = [holder] ∧ s.release holder = ⟨true, {}, s.gateway.map (·.finish)⟩) ∨
    (holder ∈ s.holders ∧ s.holders ≠ [holder] ∧
      s.release holder = ⟨true, { s with holders := s.holders.erase holder }, none⟩) := by
  by_cases hm : holder ∈ s.holders
  · by_cases hlast : s.holders = [holder]
    · exact .inr (.inl ⟨hlast, release_of_last hlast⟩)
    · exact .inr (.inr ⟨hm, hlast, release_of_more hs hm hlast⟩)
  · exact .inl ⟨hm, release_of_notMem hs hm⟩

theorem Held.obey {s : SharedGateway} (hs : s.Held) (c : SharedCall) : (s.obey c).Held := by
  cases c with
  | acquire holder o relay files =>
    exact ⟨iff_of_true rfl (s.hold_ne_nil holder), nodup_hold hs.distinct holder⟩
  | current holder =>
    show (s.current holder).2.Held
    unfold current
    split
    next h => exact ⟨iff_of_true h (s.hold_ne_nil holder), nodup_hold hs.distinct holder⟩
    next => exact hs
  | share holder other =>
    show (s.share holder other).Held
    unfold share
    split
    next h =>
      have hlive : s.gateway.isSome = true := hs.live.2 (List.ne_nil_of_mem h)
      exact ⟨iff_of_true hlive (s.hold_ne_nil other), nodup_hold hs.distinct other⟩
    next => exact hs
  | release holder =>
    show (s.release holder).shared.Held
    rcases release_cases hs holder with ⟨-, h⟩ | ⟨-, h⟩ | ⟨hm, hlast, h⟩
    · rw [h]
      exact hs
    · rw [h]
      exact held_empty
    · have hlive : s.gateway.isSome = true := hs.live.2 (List.ne_nil_of_mem hm)
      rw [h]
      exact ⟨iff_of_true hlive (erase_ne_nil hm hlast), hs.distinct.erase holder⟩
  | operate holder op =>
    show Held (if holder ∈ s.holders then _ else s)
    split
    · exact hs.map _
    · exact hs
  | background change => exact hs.map _

theorem held_after (calls : List SharedCall) : (after {} calls).Held := by
  induction calls using List.reverseRecOn with
  | nil => exact held_empty
  | append_singleton calls c ih =>
    rw [after_append]
    exact ih.obey c

/-- As long as it is held, a gateway goes through what is done with it and nothing else. -/
theorem gateway_obey {s : SharedGateway} {g : Gateway} (hg : s.gateway = some g) {c : SharedCall}
    (hc : (s.obey c).gateway.isSome = true) :
    (s.obey c).gateway = some (g.after (s.stepsOf c)) := by
  cases c with
  | acquire holder o relay files =>
    exact congrArg SharedGateway.gateway (acquireWith_of_live hg holder o relay files)
  | current holder =>
    show (s.current holder).2.gateway = some g
    unfold current
    split <;> exact hg
  | share holder other =>
    show (s.share holder other).gateway = some g
    unfold share
    split <;> exact hg
  | release holder =>
    change (s.release holder).shared.gateway.isSome = true at hc
    show (s.release holder).shared.gateway = some g
    unfold release at hc ⊢
    dsimp only at hc ⊢
    split at hc
    · cases hc
    next h =>
      rw [if_neg h]
      exact hg
  | operate holder op =>
    rw [obey, stepsOf]
    split
    · rw [hg]
      rfl
    · exact hg
  | background change =>
    rw [obey, hg]
    rfl

/-- A gateway is what it was made as by whoever asked for it when nobody held any, and what was done
with it since; it was held all the time. -/
def Made (calls : List SharedCall) (g : Gateway) : Prop :=
  ∃ before holder o relay files during,
    calls = before ++ .acquire holder o relay files :: during ∧
    after {} before = {} ∧
    (∀ mid, mid <+: during →
      (after {} (before ++ .acquire holder o relay files :: mid)).holders ≠ []) ∧
    g = (Gateway.create o relay files).after
      (steps ⟨[holder], some (.create o relay files)⟩ during)

theorem obey_acquire_empty (holder : String) (o : GatewayOptions) (relay : Relay)
    (files : FileTree) :
    obey {} (.acquire holder o relay files) = ⟨[holder], some (.create o relay files)⟩ := by
  simp [obey, acquireWith, hold]

theorem obey_cases {s : SharedGateway} (hs : s.Held) {c : SharedCall} {g : Gateway}
    (hg : (s.obey c).gateway = some g) :
    (∃ holder o relay files, s = {} ∧ c = .acquire holder o relay files ∧
      g = Gateway.create o relay files) ∨
      ∃ g₀, s.gateway = some g₀ ∧ g = g₀.after (s.stepsOf c) := by
  cases hprev : s.gateway with
  | none =>
    obtain rfl := hs.eq_empty_of_none hprev
    cases c with
    | acquire holder o relay files =>
      rw [obey_acquire_empty] at hg
      exact .inl ⟨holder, o, relay, files, rfl, rfl, (Option.some.inj hg).symm⟩
    | _ => cases hg
  | some g₀ =>
    have hnow := gateway_obey hprev (c := c) (by rw [hg]; rfl)
    rw [hg] at hnow
    exact .inr ⟨g₀, rfl, Option.some.inj hnow⟩

theorem made_of_live (calls : List SharedCall) {g : Gateway}
    (hg : (after {} calls).gateway = some g) :
    Made calls g := by
  induction calls using List.reverseRecOn generalizing g with
  | nil => cases hg
  | append_singleton calls c ih =>
    have hheld := (held_after (calls ++ [c])).ne_nil hg
    have hlast : after {} (calls ++ [c]) = (after {} calls).obey c := after_append {} calls [c]
    rw [hlast] at hg
    rcases obey_cases (held_after calls) hg with
      ⟨holder, o, relay, files, hempty, rfl, rfl⟩ | ⟨g₀, hprev, rfl⟩
    · refine ⟨calls, holder, o, relay, files, [], rfl, hempty, fun mid hmid => ?_, rfl⟩
      rw [List.prefix_nil.1 hmid]
      exact hheld
    · obtain ⟨before, holder, o, relay, files, during, rfl, hbefore, hmids, rfl⟩ := ih hprev
      have hduring : after {} (before ++ .acquire holder o relay files :: during) =
          after ⟨[holder], some (.create o relay files)⟩ during := by
        rw [after_append, hbefore, ← obey_acquire_empty]
        rfl
      refine ⟨before, holder, o, relay, files, during ++ [c], by simp, hbefore,
        fun mid hmid => ?_, ?_⟩
      · rcases List.prefix_concat_iff.1 hmid with rfl | hmid
        · simpa using hheld
        · exact hmids mid hmid
      · rw [steps_append, ← hduring, steps, steps, List.append_nil, Gateway.after_append]

theorem attended_of_live {calls : List SharedCall} (hc : ∀ c ∈ calls, c.Orderly) {g : Gateway}
    (hg : (after {} calls).gateway = some g) : g.Attended := by
  induction calls using List.reverseRecOn generalizing g with
  | nil => cases hg
  | append_singleton calls c ih =>
    rw [after_append] at hg
    rcases obey_cases (held_after calls) hg with
      ⟨holder, o, relay, files, -, -, rfl⟩ | ⟨g₀, hprev, rfl⟩
    · have hbuilt : (Origin.options o).build relay files = .ok (.create o relay files) := rfl
      exact Gateway.attended_of_build hbuilt
    · have hg₀ : g₀.Attended := ih (fun d hd => hc d (List.mem_append_left _ hd)) hprev
      cases c with
      | operate holder op =>
        rw [stepsOf]
        split
        · exact Gateway.attended_perform hg₀ op
        · exact hg₀
      | background change => exact hc (.background change) (by simp) g₀ hg₀
      | _ => exact hg₀

end SharedGateway
end SocksGateway
