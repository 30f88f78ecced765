import Mathlib.Data.List.Basic
import SocksGateway.Gateway.Basic
import SocksGateway.Proofs.Engine.Proxies
import SocksGateway.Proofs.Policy.Revision

namespace SocksGateway

/-- After every start of a proxy there is a stop. -/
def Released (h : Handle) (calls : List RelayCall) : Prop :=
  ∀ before after e, calls = before ++ .started h e :: after → ∃ e', .stopped h e' ∈ after

section
variable {h : Handle} {calls : List RelayCall} {c : RelayCall}

theorem released_nil (h : Handle) : Released h [] := by
  intro before after e heq
  cases before <;> cases heq

theorem released_concat_stopped (h : Handle) (calls : List RelayCall) (e : Endpoint) :
    Released h (calls ++ [.stopped h e]) := by
  intro before after e' heq
  rcases List.eq_nil_or_concat after with rfl | ⟨rest, c, rfl⟩
  · have hlast := List.append_inj_right' heq rfl
    cases hlast
  · rw [List.concat_eq_append, ← List.cons_append, ← List.append_assoc] at heq
    obtain rfl := List.head_eq_of_cons_eq (List.append_inj_right' heq rfl)
    exact ⟨e, by simp⟩

theorem not_released_concat_started (h : Handle) (calls : List RelayCall) (e : Endpoint) :
    ¬ Released h (calls ++ [.started h e]) := by
  intro hr
  obtain ⟨e', he⟩ := hr calls [] e rfl
  cases he

theorem released_concat (hs : ∀ e, c ≠ .started h e) (ht : ∀ e, c ≠ .stopped h e) :
    Released h (calls ++ [c]) ↔ Released h calls := by
  constructor
  · intro hr before after e heq
    obtain ⟨e', he⟩ :=
      hr before (after ++ [c]) e (by rw [heq, List.append_assoc, List.cons_append])
    rcases List.mem_append.1 he with he | he
    · exact ⟨e', he⟩
    · exact absurd (List.mem_singleton.1 he).symm (ht e')
  · intro hr before after e heq
    rcases List.eq_nil_or_concat after with rfl | ⟨rest, d, rfl⟩
    · exact absurd (List.head_eq_of_cons_eq (List.append_inj_right' heq rfl)) (hs e)
    · rw [List.concat_eq_append, ← List.cons_append, ← List.append_assoc] at heq
      obtain ⟨e', he⟩ := hr before rest e (List.append_inj_left' heq rfl)
      exact ⟨e', by simp [he]⟩

end

theorem Proxy.isRunning_eq_false_iff (p : Proxy) : p.isRunning = false ↔ p.state = .stopped := by
  unfold isRunning
  cases p.state <;> decide

theorem Proxy.isRunning_iff (p : Proxy) : p.isRunning = true ↔ p.state = .running := by
  unfold isRunning
  cases p.state <;> decide

namespace Registry

def isUp (r : Registry) (h : Handle) : Bool := (r.get? h).any (·.isRunning)

theorem isUp_iff (r : Registry) (h : Handle) :
    r.isUp h = true ↔ ∃ p, r.get? h = some p ∧ p.state = .running := by
  rw [isUp]
  cases r.get? h with
  | none => simp
  | some p => simp [p.isRunning_iff]

theorem isUp_insert (r : Registry) (e : Endpoint) (c : Option Credentials) (m : ProtocolMask)
    (a : Bool) (h : Handle) : (r.insert e c m a).isUp h = r.isUp h := by
  rw [isUp, get?_insert]
  split
  next heq => rw [heq, isUp, get?_nextHandle]; rfl
  next => rfl

theorem isUp_setRunning {r : Registry} {k : Handle} (hk : r.contains k = true) (h : Handle) :
    (r.setState k .running).isUp h = (h == k || r.isUp h) := by
  rw [isUp, get?_setState, isUp]
  by_cases he : h = k
  · subst he
    rw [contains] at hk
    cases hp : r.get? h with
    | none => rw [hp] at hk; cases hk
    | some p => simp [Proxy.isRunning]
  · cases r.get? h <;> simp [he]

theorem isUp_setStopped (r : Registry) (k h : Handle) :
    (r.setState k .stopped).isUp h = (h != k && r.isUp h) := by
  rw [isUp, get?_setState, isUp]
  by_cases he : h = k
  · subst he
    cases r.get? h <;> simp [Proxy.isRunning]
  · cases r.get? h <;> simp [he]

theorem mem_running_of_isUp {r : Registry} {h : Handle} (hu : r.isUp h = true) :
    ∃ p ∈ r.running, p.handle = h := by
  unfold isUp at hu
  cases hp : r.get? h with
  | none => rw [hp] at hu; cases hu
  | some p =>
    rw [hp] at hu
    exact ⟨p, List.mem_filter.2 ⟨mem_of_get? hp, hu⟩, handle_of_get? hp⟩

end Registry

namespace Engine

/-- The relay had the calls that tell which proxies are up. -/
def Accounted (e : Engine) : Prop := ∀ h, Released h e.calls.toList ↔ e.registry.isUp h = false

theorem Accounted.congr {e e' : Engine} (ha : e.Accounted) (hc : e'.calls = e.calls)
    (hr : ∀ h, e'.registry.isUp h = e.registry.isUp h) : e'.Accounted := by
  intro h
  rw [hc, hr]
  exact ha h

theorem Accounted.markRunning {e : Engine} (ha : e.Accounted) {p : Proxy}
    (hp : e.registry.contains p.handle = true) : (e.markRunning p).Accounted := by
  intro h
  show Released h (e.calls.push (.started p.handle p.endpoint)).toList ↔
    (e.registry.setState p.handle .running).isUp h = false
  rw [Array.toList_push, Registry.isUp_setRunning hp]
  by_cases he : h = p.handle
  · subst he
    simp [not_released_concat_started]
  · rw [released_concat (fun _ hs => he (RelayCall.started.inj hs).1.symm)
      (fun _ => RelayCall.noConfusion), ha]
    simp [he]

theorem Accounted.reportRefusal {e : Engine} (ha : e.Accounted) (p : Proxy) (reason : String) :
    (e.reportRefusal p reason).Accounted := by
  intro h
  show Released h (e.calls.push (.refused p.handle p.endpoint)).toList ↔ e.registry.isUp h = false
  rw [Array.toList_push, released_concat (fun _ => RelayCall.noConfusion)
    (fun _ => RelayCall.noConfusion)]
  exact ha h

theorem Accounted.stopProxy {e : Engine} (ha : e.Accounted) (p : Proxy) :
    (e.stopProxy p).Accounted := by
  intro h
  show Released h (e.calls.push (.stopped p.handle p.endpoint)).toList ↔
    (e.registry.setState p.handle .stopped).isUp h = false
  rw [Array.toList_push, Registry.isUp_setStopped]
  by_cases he : h = p.handle
  · subst he
    simp [released_concat_stopped]
  · rw [released_concat (fun _ => RelayCall.noConfusion)
      (fun _ hs => he (RelayCall.stopped.inj hs).1.symm), ha]
    simp [he]

theorem Accounted.register {e : Engine} (ha : e.Accounted) (endpoint : String)
    (protocols : ProtocolMask) (credentials : Option Credentials) (autostart : Bool) :
    (e.register endpoint protocols credentials autostart).2.Accounted := by
  cases hp : Endpoint.ofProxyText? endpoint with
  | none =>
    rw [e.register_of_none protocols credentials hp]
    exact ha
  | some address =>
    obtain ⟨log, hr⟩ := e.register_of_some protocols credentials hp autostart
    rw [hr]
    exact ha.congr rfl fun h => e.registry.isUp_insert address credentials protocols autostart h

theorem Accounted.startProxy {e : Engine} (ha : e.Accounted) (h : Handle) :
    (e.startProxy h).2.Accounted := by
  cases hp : e.registry.get? h with
  | none => rw [startProxy_of_unknown hp]; exact ha
  | some p =>
    cases hr : p.isRunning with
    | true => rw [startProxy_of_running hp hr]; exact ha
    | false =>
      rcases startProxy_of_stopped hp hr with hs | ⟨failure, hs⟩
      · rw [hs]
        refine ha.markRunning ?_
        rw [Registry.contains, Registry.handle_of_get? hp, hp]
        rfl
      · rw [hs]
        exact ha.reportRefusal p failure.reason

theorem Accounted.addProxy {e : Engine} (ha : e.Accounted) (endpoint : String)
    (protocols : ProtocolMask) (credentials : Option Credentials) (start : Bool) :
    (e.addProxy endpoint protocols credentials start).2.Accounted :=
  addProxy_keeps (fun _ endpoint protocols credentials autostart ha =>
    ha.register endpoint protocols credentials autostart) (fun _ h ha =>
      ha.startProxy h) ha endpoint protocols
    credentials start

theorem isUp_addProxy (e : Engine) (endpoint : String) (protocols : ProtocolMask)
    (credentials : Option Credentials) (start : Bool) (h : Handle) :
    (e.addProxy endpoint protocols credentials start).2.registry.isUp h = true ↔
      e.registry.isUp h = true ∨
        start = true ∧ (e.addProxy endpoint protocols credentials start).1 = .ok h := by
  cases hp : Endpoint.ofProxyText? endpoint with
  | none => simp [e.addProxy_of_none protocols credentials hp]
  | some address =>
    have hi := fun a => e.registry.isUp_insert address credentials protocols a h
    cases start with
    | false =>
      obtain ⟨log, ha⟩ := e.addProxy_unstarted protocols credentials hp
      rw [ha]
      simp [hi]
    | true =>
      obtain ⟨log, p, hh, ha | ⟨failure, ha⟩⟩ := e.addProxy_started protocols credentials hp
      · have hc :
            (e.registry.insert address credentials protocols true).contains p.handle = true := by
          rw [Registry.contains, hh, Registry.get?_insert, if_pos rfl]
          rfl
        rw [ha]
        show ((e.registry.insert address credentials protocols true).setState p.handle
            .running).isUp h = true ↔ _
        rw [Registry.isUp_setRunning hc, hi, Bool.or_eq_true, beq_iff_eq]
        constructor
        · intro hx
          rcases hx with rfl | hu
          · exact .inr ⟨rfl, rfl⟩
          · exact .inl hu
        · intro hx
          rcases hx with hu | ⟨-, he⟩
          · exact .inr hu
          · exact .inl (Except.ok.inj he).symm
      · rw [ha]
        show (e.registry.insert address credentials protocols true).isUp h = true ↔ _
        rw [hi]
        simp

theorem Accounted.startEach {e : Engine} (ha : e.Accounted) (hs : List Handle) :
    (e.startEach hs).2.Accounted :=
  startEach_keeps (fun _ h ha => ha.startProxy h) ha hs

theorem Accounted.stopAll {e : Engine} (ha : e.Accounted) : e.stopAll.2.Accounted :=
  stopAll_keeps (fun _ p ha => ha.stopProxy p) ha

theorem isUp_foldl_stopProxy (ps : List Proxy) (e : Engine) (h : Handle) :
    (ps.foldl stopProxy e).registry.isUp h = true ↔
      (∀ p ∈ ps, p.handle ≠ h) ∧ e.registry.isUp h = true := by
  induction ps generalizing e with
  | nil => simp
  | cons p ps ih =>
    have hp : (e.stopProxy p).registry.isUp h = (h != p.handle && e.registry.isUp h) :=
      e.registry.isUp_setStopped p.handle h
    rw [List.foldl_cons, ih, hp, Bool.and_eq_true, bne_iff_ne, List.forall_mem_cons]
    constructor
    · intro hx
      obtain ⟨hps, hne, hu⟩ := hx
      exact ⟨⟨hne.symm, hps⟩, hu⟩
    · intro hx
      obtain ⟨⟨hne, hps⟩, hu⟩ := hx
      exact ⟨hps, hne.symm, hu⟩

theorem isUp_stopAll (e : Engine) (h : Handle) : e.stopAll.2.registry.isUp h = false := by
  rw [← Bool.not_eq_true]
  intro hu
  obtain ⟨hn, hu⟩ := (isUp_foldl_stopProxy e.registry.running e h).1 hu
  obtain ⟨p, hp, hh⟩ := Registry.mem_running_of_isUp hu
  exact hn p hp hh

end Engine
end SocksGateway
