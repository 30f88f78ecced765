import SocksGateway.Engine.Proxies
import SocksGateway.Proofs.Proxy.Lookup

namespace SocksGateway.Engine

section
variable (e : Engine) {endpoint : String} {address : Endpoint} (protocols : ProtocolMask)
  (credentials : Option Credentials)

theorem register_of_none (h : Endpoint.ofProxyText? endpoint = none) (autostart : Bool) :
    e.register endpoint protocols credentials autostart =
      (.error (.invalidEndpoint endpoint), e) := by
  unfold register
  simp only [h]

theorem register_of_some (h : Endpoint.ofProxyText? endpoint = some address) (autostart : Bool) :
    ∃ log, e.register endpoint protocols credentials autostart = (.ok e.registry.nextHandle,
      { e with registry := e.registry.insert address credentials protocols autostart, log }) := by
  unfold register
  simp only [h]
  exact ⟨_, rfl⟩

end

theorem startProxy_of_unknown {e : Engine} {h : Handle} (hp : e.registry.get? h = none) :
    e.startProxy h = (.error (.unknownProxy h), e) := by
  unfold startProxy
  simp only [hp]

theorem startProxy_of_running {e : Engine} {h : Handle} {p : Proxy}
    (hp : e.registry.get? h = some p) (hr : p.isRunning = true) : e.startProxy h = (.ok (), e) := by
  simp [startProxy, hp, hr]

theorem startProxy_of_taken {e : Engine} {h : Handle} {p : Proxy} (hp : e.registry.get? h = some p)
    (hr : p.isRunning = false) (ha : e.relay.answer e.calls.toList p = none) :
    e.startProxy h = (.ok (), e.markRunning p) := by
  simp [startProxy, hp, hr, ha]

theorem startProxy_of_refused {e : Engine} {h : Handle} {p : Proxy}
    (hp : e.registry.get? h = some p) (hr : p.isRunning = false) {failure : RelayFailure}
    (ha : e.relay.answer e.calls.toList p = some failure) :
    e.startProxy h = (.error (.startFailed h failure.reason),
      e.reportRefusal p failure.reason) := by
  simp [startProxy, hp, hr, ha]

theorem startProxy_of_stopped {e : Engine} {h : Handle} {p : Proxy}
    (hp : e.registry.get? h = some p) (hr : p.isRunning = false) :
    e.startProxy h = (.ok (), e.markRunning p) ∨
      ∃ failure : RelayFailure,
        e.startProxy h = (.error (.startFailed h failure.reason),
          e.reportRefusal p failure.reason) := by
  cases ha : e.relay.answer e.calls.toList p with
  | none => exact .inl (startProxy_of_taken hp hr ha)
  | some failure => exact .inr ⟨failure, startProxy_of_refused hp hr ha⟩

section
variable (e : Engine) {endpoint : String} {address : Endpoint} (protocols : ProtocolMask)
  (credentials : Option Credentials)

theorem addProxy_of_none (h : Endpoint.ofProxyText? endpoint = none) (start : Bool) :
    e.addProxy endpoint protocols credentials start = (.error (.invalidEndpoint endpoint), e) := by
  unfold addProxy
  simp only [e.register_of_none protocols credentials h]

theorem addProxy_unstarted (h : Endpoint.ofProxyText? endpoint = some address) :
    ∃ log, e.addProxy endpoint protocols credentials false = (.ok e.registry.nextHandle,
      { e with registry := e.registry.insert address credentials protocols false, log }) := by
  obtain ⟨log, hr⟩ := e.register_of_some protocols credentials h false
  refine ⟨log, ?_⟩
  unfold addProxy
  simp only [hr]
  rfl

theorem addProxy_started (h : Endpoint.ofProxyText? endpoint = some address) :
    ∃ log p, let e' : Engine :=
        { e with registry := e.registry.insert address credentials protocols true, log }
      p.handle = e.registry.nextHandle ∧
        (e.addProxy endpoint protocols credentials true = (.ok p.handle, e'.markRunning p) ∨
          ∃ failure : RelayFailure, e.addProxy endpoint protocols credentials true =
            (.error (.startFailed p.handle failure.reason),
              e'.reportRefusal p failure.reason)) := by
  obtain ⟨log, hr⟩ := e.register_of_some protocols credentials h true
  let p : Proxy := ⟨e.registry.nextHandle, address, credentials, protocols, .stopped, true⟩
  refine ⟨log, p, rfl, ?_⟩
  have hp : (e.registry.insert address credentials protocols true).get? e.registry.nextHandle =
      some p := by
    rw [Registry.get?_insert, if_pos rfl]
  have hstart := startProxy_of_stopped
    (e := { e with registry := e.registry.insert address credentials protocols true, log }) hp rfl
  rcases hstart with hs | ⟨failure, hs⟩
  · left
    unfold addProxy
    simp only [hr, if_true, hs]
    rfl
  · right
    refine ⟨failure, ?_⟩
    unfold addProxy
    simp only [hr, if_true, hs]
    rfl

end

section
variable {P : Engine → Prop} {e : Engine}

theorem addProxy_keeps
    (hr : ∀ (e : Engine) endpoint protocols credentials autostart, P e →
      P (e.register endpoint protocols credentials autostart).2)
    (hs : ∀ (e : Engine) h, P e → P (e.startProxy h).2) (he : P e) (endpoint : String)
    (protocols : ProtocolMask) (credentials : Option Credentials) (start : Bool) :
    P (e.addProxy endpoint protocols credentials start).2 := by
  have hp := hr e endpoint protocols credentials start he
  unfold addProxy
  split
  next error e' h => rw [h] at hp; exact hp
  next k e' h =>
    rw [h] at hp
    have hk := hs e' k hp
    split
    next =>
      split
      next error e'' h => rw [h] at hk; exact hk
      next e'' h => rw [h] at hk; exact hk
    next => exact hp

theorem startEach_keeps (hs : ∀ (e : Engine) h, P e → P (e.startProxy h).2) (he : P e)
    (handles : List Handle) :
    P (e.startEach handles).2 := by
  induction handles generalizing e with
  | nil => exact he
  | cons k handles ih =>
    have hk := hs e k he
    unfold startEach
    split
    next error e' h => rw [h] at hk; exact ih hk
    next e' h => rw [h] at hk; exact ih hk

theorem stopAll_keeps (hs : ∀ (e : Engine) p, P e → P (e.stopProxy p)) (he : P e) :
    P e.stopAll.2 := by
  show P (e.registry.running.foldl stopProxy e)
  generalize e.registry.running = proxies
  induction proxies generalizing e with
  | nil => exact he
  | cons p proxies ih => exact ih (hs e p he)

end
end SocksGateway.Engine
