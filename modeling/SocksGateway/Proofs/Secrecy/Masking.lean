import SocksGateway.Engine.Decision
import SocksGateway.Engine.Proxies
import SocksGateway.Engine.Rules
import SocksGateway.Proofs.Proxy.Lookup

/-!
Engines without their passwords. Masking empties every password and leaves all else as it is;
whatever an engine does, the masked engine does with the masked request, provided that its relay
does not look at passwords.
-/
namespace SocksGateway

def Credentials.masked (c : Credentials) : Credentials := { c with password := "" }

def Proxy.masked (p : Proxy) : Proxy :=
  { p with credentials := p.credentials.map Credentials.masked }

def Route.masked (r : Route) : Route :=
  { r with credentials := r.credentials.map Credentials.masked }

def Decision.masked : Decision → Decision
  | proxy route => proxy route.masked
  | d => d

/-- A relay that answers alike whatever the passwords are. -/
def Relay.Blind (r : Relay) : Prop := ∀ calls p, r.answer calls p.masked = r.answer calls p

theorem Credentials.optionDescription_masked (c : Option Credentials) :
    optionDescription (c.map masked) = optionDescription c := by
  cases c <;> rfl

theorem Proxy.description_masked (p : Proxy) : p.masked.description = p.description := by
  rw [description, description, masked]
  simp only [Credentials.optionDescription_masked]

theorem Proxy.handle_masked (p : Proxy) : p.masked.handle = p.handle := rfl

theorem Decision.toText_masked (d : Decision) : d.masked.toText = d.toText := by
  cases d <;> rfl

namespace Registry

def masked (r : Registry) : Registry := r.map Proxy.masked Proxy.handle_masked

theorem size_masked (r : Registry) : r.masked.size = r.size := r.size_map _

theorem nextHandle_masked (r : Registry) : r.masked.nextHandle = r.nextHandle := r.nextHandle_map _

theorem get?_masked (r : Registry) (h : Handle) : r.masked.get? h = (r.get? h).map Proxy.masked :=
  r.get?_map _ h

theorem contains_masked (r : Registry) (h : Handle) : r.masked.contains h = r.contains h :=
  r.contains_map _ h

theorem masked_insert (r : Registry) (e : Endpoint) (c : Option Credentials) (m : ProtocolMask)
    (a : Bool) :
    (r.insert e c m a).masked = r.masked.insert e (c.map Credentials.masked) m a := by
  apply ext
  simp [masked, map, insert, nextHandle, size, Proxy.masked]

theorem masked_setState (r : Registry) (h : Handle) (s : ProxyState) :
    (r.setState h s).masked = r.masked.setState h s := by
  apply ext
  simp only [masked, map, setState, List.map_map]
  apply List.map_congr_left
  intro p _
  exact apply_ite Proxy.masked (p.handle = h) { p with state := s } p

theorem running_masked (r : Registry) : r.masked.running = r.running.map Proxy.masked :=
  List.filter_map

theorem pending_masked (r : Registry) : r.masked.pending = r.pending := by
  rw [pending, masked, map, List.filter_map, List.map_map]
  rfl

theorem description_masked (r : Registry) : r.masked.description = r.description := by
  have h : Proxy.description ∘ Proxy.masked = Proxy.description := funext Proxy.description_masked
  rw [description, masked, map, List.map_map, h, description]

theorem offer_masked (r : Registry) (h : Handle) (protocol : Protocol) :
    r.masked.offer h protocol = (r.offer h protocol).masked := by
  rw [offer, offer, get?_masked]
  cases r.get? h with
  | none => rfl
  | some p =>
    exact (apply_ite Decision.masked (p.protocols.supports protocol = true) (.proxy p.route)
      (.block .protocolMismatch)).symm

end Registry

theorem Rule.decide_masked (r : Rule) (registry : Registry) (a : Address) (protocol : Protocol) :
    r.decide registry.masked a protocol = (r.decide registry a protocol).masked := by
  unfold decide
  split
  next =>
    cases r.proxy with
    | none => rfl
    | some h => exact registry.offer_masked h protocol
  next => rfl

namespace Engine

def masked (e : Engine) : Engine := { e with registry := e.registry.masked }

theorem evaluate_masked (e : Engine) (process : String) (a : Address) (protocol : Protocol) :
    e.masked.evaluate process a protocol = (e.evaluate process a protocol).masked := by
  rw [evaluate, evaluate, masked]
  split
  next => rfl
  next =>
    cases e.policy.get? process with
    | none => rfl
    | some rule => exact rule.decide_masked e.registry a protocol

theorem decide_masked (e : Engine) (process : String) (destination : Endpoint)
    (protocol : Protocol) :
    e.masked.decide process destination protocol =
      ((e.decide process destination protocol).1.masked,
        (e.decide process destination protocol).2.masked) := by
  simp only [decide, decisionText, evaluate_masked, Decision.toText_masked]
  rfl

theorem withRange_masked {e : Engine} {f g : Network → Except GatewayError Unit × Engine}
    (h : ∀ n, g n = ((f n).1, (f n).2.masked)) (range : String) :
    e.masked.withRange range g = ((e.withRange range f).1, (e.withRange range f).2.masked) := by
  unfold withRange
  cases Network.ofRangeText? range with
  | none => rfl
  | some n => exact h n

theorem adoptRemoval_masked (e : Engine) (policy : Option PolicyTable) (verb : String)
    (n : Network) (process : String) :
    e.masked.adoptRemoval policy verb n process =
      ((e.adoptRemoval policy verb n process).1,
        (e.adoptRemoval policy verb n process).2.masked) := by
  cases policy <;> rfl

theorem associate_masked (e : Engine) (process : String) (h : Handle) :
    e.masked.associate process h =
      ((e.associate process h).1, (e.associate process h).2.masked) := by
  have hc : e.masked.registry.contains h = e.registry.contains h := e.registry.contains_masked h
  rw [associate, associate, hc]
  split <;> rfl

theorem change_masked (e : Engine) (c : RuleChange) :
    e.masked.change c = ((e.change c).1, (e.change c).2.masked) := by
  cases c with
  | associate p h => exact e.associate_masked p h
  | exclude p => rfl
  | allow p range =>
    refine withRange_masked ?_ range
    intro n
    rfl
  | dropAllowed p range => exact withRange_masked (fun n => e.adoptRemoval_masked _ _ n p) range
  | deny p range =>
    refine withRange_masked ?_ range
    intro n
    rfl
  | dropDenied p range => exact withRange_masked (fun n => e.adoptRemoval_masked _ _ n p) range

theorem register_masked (e : Engine) (endpoint : String) (protocols : ProtocolMask)
    (credentials : Option Credentials) (autostart : Bool) :
    e.masked.register endpoint protocols (credentials.map Credentials.masked) autostart =
      ((e.register endpoint protocols credentials autostart).1,
        (e.register endpoint protocols credentials autostart).2.masked) := by
  unfold register
  cases Endpoint.ofProxyText? endpoint with
  | none => rfl
  | some address =>
    simp only [masked, Registry.nextHandle_masked, ← Registry.masked_insert]
    rfl

theorem masked_markRunning (e : Engine) (p : Proxy) :
    (e.markRunning p).masked = e.masked.markRunning p.masked :=
  congrArg (fun registry => { e.markRunning p with registry })
    (e.registry.masked_setState p.handle .running)

theorem masked_stopProxy (e : Engine) (p : Proxy) :
    (e.stopProxy p).masked = e.masked.stopProxy p.masked :=
  congrArg (fun registry => { e.stopProxy p with registry })
    (e.registry.masked_setState p.handle .stopped)

theorem foldl_stopProxy_masked (e : Engine) (ps : List Proxy) :
    (ps.map Proxy.masked).foldl stopProxy e.masked = (ps.foldl stopProxy e).masked := by
  induction ps generalizing e with
  | nil => rfl
  | cons p ps ih => rw [List.map_cons, List.foldl_cons, ← masked_stopProxy, ih, List.foldl_cons]

theorem stopAll_masked (e : Engine) : e.masked.stopAll = (e.stopAll.1, e.stopAll.2.masked) := by
  have hr : e.masked.registry.running = e.registry.running.map Proxy.masked :=
    e.registry.running_masked
  rw [stopAll, stopAll, hr, List.length_map, foldl_stopProxy_masked]

theorem startProxy_masked {e : Engine} (hr : e.relay.Blind) (h : Handle) :
    e.masked.startProxy h = ((e.startProxy h).1, (e.startProxy h).2.masked) := by
  have hg : e.masked.registry.get? h = (e.registry.get? h).map Proxy.masked :=
    e.registry.get?_masked h
  unfold startProxy
  rw [hg]
  cases e.registry.get? h with
  | none => rfl
  | some p =>
    have ha : e.masked.relay.answer e.masked.calls.toList p.masked =
        e.relay.answer e.calls.toList p :=
      hr e.calls.toList p
    have hp : p.masked.isRunning = p.isRunning := rfl
    simp only [Option.map_some, hp, ha]
    split
    next => rfl
    next =>
      cases e.relay.answer e.calls.toList p with
      | none => exact congrArg (Prod.mk _) (e.masked_markRunning p).symm
      | some failure => rfl

theorem relay_startProxy (e : Engine) (h : Handle) : (e.startProxy h).2.relay = e.relay := by
  unfold startProxy
  split
  next => rfl
  next p _ =>
    split
    next => rfl
    next => split <;> rfl

theorem relay_register (e : Engine) (endpoint : String) (protocols : ProtocolMask)
    (credentials : Option Credentials) (autostart : Bool) :
    (e.register endpoint protocols credentials autostart).2.relay = e.relay := by
  unfold register
  split <;> rfl

theorem startEach_masked {e : Engine} (hr : e.relay.Blind) (hs : List Handle) :
    e.masked.startEach hs = ((e.startEach hs).1, (e.startEach hs).2.masked) := by
  induction hs generalizing e with
  | nil => rfl
  | cons h hs ih =>
    have hrelay := e.relay_startProxy h
    rw [startEach, startEach, startProxy_masked hr]
    generalize e.startProxy h = result at hrelay
    obtain ⟨answer, e'⟩ := result
    have hr' : e'.relay.Blind := by rw [hrelay]; exact hr
    cases answer with
    | error error => simp only [ih hr']
    | ok u => exact ih hr'

theorem startPending_masked {e : Engine} (hr : e.relay.Blind) :
    e.masked.startPending = (e.startPending.1, e.startPending.2.masked) := by
  have hp : e.masked.registry.pending = e.registry.pending := e.registry.pending_masked
  rw [startPending, startPending, hp, startEach_masked hr]

theorem addProxy_masked {e : Engine} (hr : e.relay.Blind) (endpoint : String)
    (protocols : ProtocolMask) (credentials : Option Credentials) (start : Bool) :
    e.masked.addProxy endpoint protocols (credentials.map Credentials.masked) start =
      ((e.addProxy endpoint protocols credentials start).1,
        (e.addProxy endpoint protocols credentials start).2.masked) := by
  have hrelay := e.relay_register endpoint protocols credentials start
  unfold addProxy
  rw [register_masked]
  generalize e.register endpoint protocols credentials start = result at hrelay
  obtain ⟨answer, e'⟩ := result
  have hr' : e'.relay.Blind := by rw [hrelay]; exact hr
  cases answer with
  | error error => rfl
  | ok h =>
    cases start with
    | false => rfl
    | true =>
      simp only [if_true, startProxy_masked hr']
      generalize e'.startProxy h = result
      obtain ⟨answer, e''⟩ := result
      cases answer <;> rfl

end Engine
end SocksGateway
