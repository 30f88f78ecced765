import SocksGateway.Proofs.Engine.Running
import SocksGateway.Proofs.Log.Gains

namespace SocksGateway

/-- What becomes of a proxy in a call; a start that is refused changes nothing. -/
def RelayCall.state? (h : Handle) : RelayCall → Option ProxyState
  | started k _ => if k = h then some .running else none
  | refused _ _ => none
  | stopped k _ => if k = h then some .stopped else none

/-- How a proxy went up and down. -/
def turns (h : Handle) (calls : List RelayCall) : List ProxyState := calls.filterMap (·.state? h)

/-- Up and down by turns, and up first. -/
def Alternating (states : List ProxyState) : Prop :=
  ∀ i s, states[i]? = some s → (s = .running ↔ i % 2 = 0)

theorem turns_concat (h : Handle) (calls : List RelayCall) (c : RelayCall) :
    turns h (calls ++ [c]) = turns h calls ++ (c.state? h).toList := by
  unfold turns
  cases hc : c.state? h <;> simp [hc]

theorem alternating_nil : Alternating [] := by
  intro i s hi
  simp at hi

theorem Alternating.concat {states : List ProxyState} (ha : Alternating states) {s : ProxyState}
    (hs : s = .running ↔ states.length % 2 = 0) : Alternating (states ++ [s]) := by
  intro i t hi
  rcases Nat.lt_trichotomy i states.length with hlt | rfl | hgt
  · rw [List.getElem?_append_left hlt] at hi
    exact ha i t hi
  · rw [List.getElem?_concat_length] at hi
    cases hi
    exact hs
  · rw [List.getElem?_eq_none (by simp; omega)] at hi
    cases hi

theorem Alternating.getLast?_eq_running_iff {states : List ProxyState} (ha : Alternating states) :
    states.getLast? = some .running ↔ states.length % 2 = 1 := by
  rcases List.eq_nil_or_concat states with rfl | ⟨front, s, rfl⟩
  · simp
  · have hs := ha front.length s (by simp)
    rw [List.concat_eq_append, List.getLast?_concat, List.length_append, List.length_singleton,
      Option.some.injEq, hs]
    omega

namespace Engine

/-- A call of the relay, with the engine before and after it. -/
inductive Calls : Engine → RelayCall → Engine → Prop
  | start {e : Engine} {p : Proxy} (registered : e.registry.get? p.handle = some p)
      (down : p.state = .stopped) (taken : e.relay.answer e.calls.toList p = none) :
    Calls e (.started p.handle p.endpoint) (e.markRunning p)
  | refusal {e : Engine} {p : Proxy} {failure : RelayFailure}
      (registered : e.registry.get? p.handle = some p)
      (down : p.state = .stopped) (turnedDown : e.relay.answer e.calls.toList p = some failure) :
    Calls e (.refused p.handle p.endpoint) (e.reportRefusal p failure.reason)
  | stop {e : Engine} {p : Proxy} (registered : e.registry.get? p.handle = some p)
      (up : p.state = .running) :
    Calls e (.stopped p.handle p.endpoint) (e.stopProxy p)

/-- A stretch of work on the proxies, with the calls that the relay has in it. -/
inductive Works : Engine → List RelayCall → Engine → Prop
  | rest (e : Engine) : Works e [] e
  | register {e e' : Engine} {calls : List RelayCall} (endpoint : String) (protocols : ProtocolMask)
      (credentials : Option Credentials) (autostart : Bool)
      (later : Works (e.register endpoint protocols credentials autostart).2 calls e') :
    Works e calls e'
  | call {e m e' : Engine} {c : RelayCall} {calls : List RelayCall} (now : Calls e c m)
      (later : Works m calls e') :
    Works e (c :: calls) e'

namespace Works

theorem trans {e m e' : Engine} {cs ds : List RelayCall} (h : Works e cs m) (h' : Works m ds e') :
    Works e (cs ++ ds) e' := by
  induction h with
  | rest e => exact h'
  | register endpoint protocols credentials autostart _ ih =>
    exact .register endpoint protocols credentials autostart (ih h')
  | call now _ ih => exact .call now (ih h')

theorem uncons {e e' : Engine} {c : RelayCall} {cs : List RelayCall} (h : Works e (c :: cs) e') :
    ∃ m m', Works e [] m ∧ Calls m c m' ∧ Works m' cs e' := by
  generalize hcs : c :: cs = calls at h
  induction h with
  | rest e => cases hcs
  | register endpoint protocols credentials autostart _ ih =>
    obtain ⟨m, m', hm, hc, hm'⟩ := ih hcs
    exact ⟨m, m', .register endpoint protocols credentials autostart hm, hc, hm'⟩
  | call now later =>
    cases hcs
    exact ⟨_, _, .rest _, now, later⟩

theorem split {e e' : Engine} {before after : List RelayCall} {c : RelayCall}
    (h : Works e (before ++ c :: after) e') :
    ∃ m m', Works e before m ∧ Calls m c m' ∧ Works m' after e' := by
  induction before generalizing e with
  | nil => exact uncons h
  | cons b before ih =>
    obtain ⟨m, m', hm, hb, hm'⟩ := uncons h
    obtain ⟨n, n', hn, hc, hn'⟩ := ih hm'
    exact ⟨n, n', hm.trans (.call hb hn), hc, hn'⟩

end Works

theorem works_register (e : Engine) (endpoint : String) (protocols : ProtocolMask)
    (credentials : Option Credentials) (autostart : Bool) :
    Works e [] (e.register endpoint protocols credentials autostart).2 :=
  .register endpoint protocols credentials autostart (.rest _)

theorem works_startProxy (e : Engine) (h : Handle) :
    ∃ calls, Works e calls (e.startProxy h).2 := by
  cases hp : e.registry.get? h with
  | none =>
    rw [startProxy_of_unknown hp]
    exact ⟨[], .rest e⟩
  | some p =>
    cases hr : p.isRunning with
    | true =>
      rw [startProxy_of_running hp hr]
      exact ⟨[], .rest e⟩
    | false =>
      have hget : e.registry.get? p.handle = some p := by rw [Registry.handle_of_get? hp, hp]
      have hdown := p.isRunning_eq_false_iff.1 hr
      cases ha : e.relay.answer e.calls.toList p with
      | none =>
        rw [startProxy_of_taken hp hr ha]
        exact ⟨_, .call (.start hget hdown ha) (.rest _)⟩
      | some failure =>
        rw [startProxy_of_refused hp hr ha]
        exact ⟨_, .call (.refusal hget hdown ha) (.rest _)⟩

section
variable {e₀ e : Engine}

theorem works_further_register (h : ∃ calls, Works e₀ calls e) (endpoint : String)
    (protocols : ProtocolMask) (credentials : Option Credentials) (autostart : Bool) :
    ∃ calls, Works e₀ calls (e.register endpoint protocols credentials autostart).2 := by
  obtain ⟨calls, h⟩ := h
  exact ⟨_, h.trans (e.works_register endpoint protocols credentials autostart)⟩

theorem works_further_startProxy (h : ∃ calls, Works e₀ calls e) (k : Handle) :
    ∃ calls, Works e₀ calls (e.startProxy k).2 := by
  obtain ⟨calls, h⟩ := h
  obtain ⟨calls', h'⟩ := e.works_startProxy k
  exact ⟨_, h.trans h'⟩

end

/-- A proxy that was not stopped yet is still there as it was when the list was made. -/
theorem works_stopEach (ps : List Proxy) (e : Engine)
    (hps : ∀ p ∈ ps, e.registry.get? p.handle = some p ∧ p.state = .running)
    (hd : ps.Pairwise fun p q => p.handle ≠ q.handle) :
    Works e (ps.map fun p => .stopped p.handle p.endpoint) (ps.foldl stopProxy e) := by
  induction ps generalizing e with
  | nil => exact .rest e
  | cons p ps ih =>
    obtain ⟨hp, hps⟩ := List.forall_mem_cons.1 hps
    obtain ⟨hne, hd⟩ := List.pairwise_cons.1 hd
    refine .call (.stop hp.1 hp.2) (ih _ (fun q hq => ⟨?_, (hps q hq).2⟩) hd)
    show (e.registry.setState p.handle .stopped).get? q.handle = some q
    rw [Registry.get?_setState, (hps q hq).1, Option.map_some, if_neg (hne q hq).symm]

theorem works_stopAll (e : Engine) : ∃ calls, Works e calls e.stopAll.2 := by
  refine ⟨_, works_stopEach e.registry.running e (fun p hp => ?_) ?_⟩
  · obtain ⟨hm, hr⟩ := List.mem_filter.1 hp
    exact ⟨(e.registry.get?_eq_some_iff p.handle p).2 ⟨hm, rfl⟩, p.isRunning_iff.1 hr⟩
  · exact (e.registry.ascending.filter _).imp fun hlt heq => by simp [heq] at hlt

end Engine

inductive ProxyCommand
  | register (endpoint : String) (protocols : ProtocolMask) (credentials : Option Credentials)
      (autostart : Bool)
  | add (endpoint : String) (protocols : ProtocolMask)
      (credentials : Option Credentials) (start : Bool)
  | start (handle : Handle)
  | startPending
  | stopAll

namespace Engine

def obey (e : Engine) : ProxyCommand → Engine
  | .register endpoint protocols credentials autostart =>
    (e.register endpoint protocols credentials autostart).2
  | .add endpoint protocols credentials start => (e.addProxy endpoint protocols credentials start).2
  | .start h => (e.startProxy h).2
  | .startPending => e.startPending.2
  | .stopAll => e.stopAll.2

def obeyAll (e : Engine) (commands : List ProxyCommand) : Engine := commands.foldl obey e

theorem works_obey (e : Engine) (c : ProxyCommand) : ∃ calls, Works e calls (e.obey c) := by
  have hrest : ∃ calls, Works e calls e := ⟨[], .rest e⟩
  cases c with
  | register endpoint protocols credentials autostart =>
    exact works_further_register hrest endpoint protocols credentials autostart
  | add endpoint protocols credentials start =>
    exact addProxy_keeps (P := fun m => ∃ calls, Works e calls m)
      (fun _ endpoint protocols credentials autostart h =>
        works_further_register h endpoint protocols credentials autostart)
      (fun _ k h => works_further_startProxy h k) hrest endpoint protocols credentials start
  | start k => exact works_further_startProxy hrest k
  | startPending =>
    exact startEach_keeps (P := fun m => ∃ calls, Works e calls m)
      (fun _ k h => works_further_startProxy h k) hrest e.registry.pending
  | stopAll => exact e.works_stopAll

theorem works_obeyAll (e : Engine) (commands : List ProxyCommand) :
    ∃ calls, Works e calls (e.obeyAll commands) := by
  induction commands generalizing e with
  | nil => exact ⟨[], .rest e⟩
  | cons c commands ih =>
    obtain ⟨calls, h⟩ := e.works_obey c
    obtain ⟨calls', h'⟩ := ih (e.obey c)
    exact ⟨_, h.trans h'⟩

/-- A proxy went up and down by turns, and is up exactly if it went up last. -/
structure Balanced (e : Engine) (h : Handle) : Prop where
  alternating : Alternating (turns h e.calls.toList)
  up : e.registry.isUp h = true ↔ (turns h e.calls.toList).length % 2 = 1

theorem isUp_of_registered {e : Engine} {p : Proxy} (h : e.registry.get? p.handle = some p) :
    e.registry.isUp p.handle = p.isRunning := by
  rw [Registry.isUp, h]
  rfl

theorem Calls.calls_eq {e m : Engine} {c : RelayCall} (h : Calls e c m) :
    m.calls.toList = e.calls.toList ++ [c] := by
  cases h <;> exact Array.toList_push

theorem Balanced.register {e : Engine} {h : Handle} (hb : e.Balanced h) (endpoint : String)
    (protocols : ProtocolMask) (credentials : Option Credentials) (autostart : Bool) :
    (e.register endpoint protocols credentials autostart).2.Balanced h := by
  cases ha : Endpoint.ofProxyText? endpoint with
  | none =>
    rw [e.register_of_none protocols credentials ha]
    exact hb
  | some address =>
    obtain ⟨log, hr⟩ := e.register_of_some protocols credentials ha autostart
    rw [hr]
    refine ⟨hb.alternating, ?_⟩
    show (e.registry.insert address credentials protocols autostart).isUp h = true ↔ _
    rw [Registry.isUp_insert]
    exact hb.up

theorem Balanced.of_other {e m : Engine} {c : RelayCall} {h : Handle} (hb : e.Balanced h)
    (hc : Calls e c m) (hs : c.state? h = none) (hup : m.registry.isUp h = e.registry.isUp h) :
    m.Balanced h := by
  have ht : turns h m.calls.toList = turns h e.calls.toList := by
    rw [hc.calls_eq, turns_concat, hs]
    exact List.append_nil _
  exact ⟨ht ▸ hb.alternating, by rw [ht, hup]; exact hb.up⟩

theorem Balanced.of_turn {e m : Engine} {c : RelayCall} {h : Handle} {s : ProxyState}
    (hb : e.Balanced h) (hc : Calls e c m) (hs : c.state? h = some s)
    (hturn : s = .running ↔ e.registry.isUp h = false)
    (hup : m.registry.isUp h = true ↔ s = .running) : m.Balanced h := by
  have ht : turns h m.calls.toList = turns h e.calls.toList ++ [s] := by
    rw [hc.calls_eq, turns_concat, hs]
    rfl
  have heven : s = .running ↔ (turns h e.calls.toList).length % 2 = 0 := by
    rw [hturn, ← Bool.not_eq_true, hb.up]
    omega
  refine ⟨ht ▸ hb.alternating.concat heven, ?_⟩
  rw [hup, heven, ht, List.length_append, List.length_singleton]
  omega

theorem Balanced.call {e m : Engine} {c : RelayCall} {h : Handle} (hb : e.Balanced h)
    (hc : Calls e c m) :
    m.Balanced h := by
  have hall := hc
  cases hc with
  | @start p registered down taken =>
    have hup : (e.markRunning p).registry.isUp h = (h == p.handle || e.registry.isUp h) :=
      Registry.isUp_setRunning (r := e.registry) (Registry.contains_of_get? registered) h
    by_cases he : p.handle = h
    · subst he
      have hdown : e.registry.isUp p.handle = false := by
        rw [isUp_of_registered registered, p.isRunning_eq_false_iff]
        exact down
      exact hb.of_turn hall (if_pos rfl) (iff_of_true rfl hdown) (by simp [hup])
    · refine hb.of_other hall (if_neg he) (hup.trans ?_)
      simp [Ne.symm he]
  | refusal registered down turnedDown => exact hb.of_other hall rfl rfl
  | @stop p registered up =>
    have hup : (e.stopProxy p).registry.isUp h = (h != p.handle && e.registry.isUp h) :=
      Registry.isUp_setStopped e.registry p.handle h
    by_cases he : p.handle = h
    · subst he
      have hwas : e.registry.isUp p.handle = true := by
        rw [isUp_of_registered registered, p.isRunning_iff]
        exact up
      exact hb.of_turn hall (if_pos rfl)
        (iff_of_false ProxyState.noConfusion (by simp [hwas])) (by simp [hup])
    · refine hb.of_other hall (if_neg he) (hup.trans ?_)
      simp [Ne.symm he]

theorem Works.balanced {e e' : Engine} {calls : List RelayCall} {h : Handle} (hw : Works e calls e')
    (hb : e.Balanced h) : e'.Balanced h := by
  induction hw with
  | rest e => exact hb
  | register endpoint protocols credentials autostart _ ih =>
    exact ih (hb.register endpoint protocols credentials autostart)
  | call now _ ih => exact ih (hb.call now)

theorem calls_register (e : Engine) (endpoint : String) (protocols : ProtocolMask)
    (credentials : Option Credentials) (autostart : Bool) :
    (e.register endpoint protocols credentials autostart).2.calls = e.calls := by
  cases ha : Endpoint.ofProxyText? endpoint with
  | none => rw [e.register_of_none protocols credentials ha]
  | some address =>
    obtain ⟨log, hr⟩ := e.register_of_some protocols credentials ha autostart
    rw [hr]

theorem Works.calls_eq {e e' : Engine} {calls : List RelayCall} (hw : Works e calls e') :
    e'.calls.toList = e.calls.toList ++ calls := by
  induction hw with
  | rest e => exact (List.append_nil _).symm
  | register endpoint protocols credentials autostart _ ih => rw [ih, calls_register]
  | call now _ ih => rw [ih, now.calls_eq, List.append_assoc, List.singleton_append]

end Engine

def Entry.notice? (e : Entry) : Option (EventKind × Payload) :=
  match e.event with
  | .connected | .disconnected => some (e.event, e.payload)
  | _ => none

def RelayCall.notice? : RelayCall → Option (EventKind × Payload)
  | started h _ => some (.connected, Engine.handleData h)
  | refused _ _ => none
  | stopped h _ => some (.disconnected, Engine.handleData h)

def notices (calls : List RelayCall) : List (EventKind × Payload) :=
  calls.filterMap RelayCall.notice?

theorem notices_cons (c : RelayCall) (calls : List RelayCall) :
    notices (c :: calls) = c.notice?.toList ++ notices calls := by
  rw [notices, List.filterMap_cons]
  cases c.notice? <;> rfl

theorem Pipeline.notices_arriving_message (p : Pipeline) (level : Level) (text : String) :
    (p.arriving level .message (.description text)).filterMap Entry.notice? = [] := by
  unfold arriving arrival
  cases p.level.allows level <;> rfl

namespace Engine

theorem gains_remark_append (e : Engine) (severity : Severity) (text : String) (level : Level)
    (event : EventKind) (payload : Payload) :
    e.log.Gains (e.log.arriving level event payload)
      ((e.diagnose severity text).append level event payload).log :=
  (Pipeline.Gains.remark e.log severity text).trans (Pipeline.gains_append _ level event payload)

theorem gains_register (e : Engine) (endpoint : String) (protocols : ProtocolMask)
    (credentials : Option Credentials) (autostart : Bool) :
    ∃ es, es.filterMap Entry.notice? = [] ∧
      e.log.Gains es (e.register endpoint protocols credentials autostart).2.log := by
  unfold register
  split
  next => exact ⟨[], rfl, .refl e.log⟩
  next address _ =>
    let named : Engine :=
      { e with registry := e.registry.insert address credentials protocols autostart }
    exact ⟨_, e.log.notices_arriving_message _ _,
      named.gains_remark_append .info _ .info .message _⟩

theorem Calls.gains {e m : Engine} {c : RelayCall} (h : Calls e c m) :
    ∃ es, e.log.Gains es m.log ∧
      (e.log.level.allows .info = true → es.filterMap Entry.notice? = c.notice?.toList) := by
  cases h with
  | @start p registered down taken =>
    let e' : Engine := { e.call (.started p.handle p.endpoint) with
      registry := e.registry.setState p.handle .running }
    refine ⟨_, e'.gains_remark_append .info _ .info .connected (handleData p.handle),
      fun hl => ?_⟩
    simp [Pipeline.arriving, Pipeline.arrival, e', call, hl, Entry.notice?,
      Pipeline.entry, RelayCall.notice?]
  | @refusal p failure registered down turnedDown =>
    let e' : Engine := e.call (.refused p.handle p.endpoint)
    exact ⟨_, e'.gains_remark_append .error _ .error .message _,
      fun _ => e.log.notices_arriving_message _ _⟩
  | @stop p registered up =>
    let e' : Engine := { e.call (.stopped p.handle p.endpoint) with
      registry := e.registry.setState p.handle .stopped }
    refine ⟨_, e'.gains_remark_append .debug _ .info .disconnected (handleData p.handle),
      fun hl => ?_⟩
    simp [Pipeline.arriving, Pipeline.arrival, e', call, hl, Entry.notice?,
      Pipeline.entry, RelayCall.notice?]

theorem Works.gains {e e' : Engine} {calls : List RelayCall} (hw : Works e calls e') :
    ∃ es, e.log.Gains es e'.log ∧
      (e.log.level.allows .info = true → es.filterMap Entry.notice? = notices calls) := by
  induction hw with
  | rest e => exact ⟨[], .refl e.log, fun _ => rfl⟩
  | @register e e' calls endpoint protocols credentials autostart _ ih =>
    obtain ⟨es, hes, hg⟩ := e.gains_register endpoint protocols credentials autostart
    obtain ⟨fs, hg', hfs⟩ := ih
    refine ⟨es ++ fs, hg.trans hg', fun hl => ?_⟩
    rw [List.filterMap_append, hes, hfs (hg.level ▸ hl), List.nil_append]
  | @call e m e' c calls now _ ih =>
    obtain ⟨es, hg, hes⟩ := now.gains
    obtain ⟨fs, hg', hfs⟩ := ih
    refine ⟨es ++ fs, hg.trans hg', fun hl => ?_⟩
    rw [List.filterMap_append, hes hl, hfs (hg.level ▸ hl), notices_cons]

theorem registry_of_failed {e : Engine} {h : Handle} {error : GatewayError}
    (hs : (e.startProxy h).1 = .error error) : (e.startProxy h).2.registry = e.registry := by
  cases hp : e.registry.get? h with
  | none => rw [startProxy_of_unknown hp]
  | some p =>
    cases hr : p.isRunning with
    | true => rw [startProxy_of_running hp hr]
    | false =>
      rcases startProxy_of_stopped hp hr with ht | ⟨failure, ht⟩
      · rw [ht] at hs
        cases hs
      · rw [ht]
        rfl

structure Tallies (start e : Engine) : Prop where
  alternating (h : Handle) : Alternating (turns h e.calls.toList)
  up (h : Handle) : (∃ p, e.registry.get? h = some p ∧ p.state = .running) ↔
    (turns h e.calls.toList).getLast? = some .running
  moment {before after : List RelayCall} {c : RelayCall}
    (hc : e.calls.toList = before ++ c :: after) :
    ∃ m m', Works start before m ∧ Calls m c m' ∧ Works m' after e
  log (hl : start.log.level.allows .info = true) :
    ∃ es, es.filterMap Entry.notice? = notices e.calls.toList ∧
      e.log.pending = (start.log.pending ++ es).drop
        ((start.log.pending ++ es).length - start.log.limit)

/-- However a relay answers: it is asked to start proxies that are down and to stop proxies that are
up, so that each proxy goes up and down by turns. A proxy is up exactly if it went up last, a start
that fails leaves every proxy as it is, and the log gets an entry for each proxy that goes up or
down, in the order of the calls. -/
theorem calls_balanced (relay : Relay) (log : Pipeline) (commands : List ProxyCommand) :
    Tallies { relay, log } (({ relay, log } : Engine).obeyAll commands) ∧
    ∀ (e : Engine) h error, (e.startProxy h).1 = .error error →
      (e.startProxy h).2.registry = e.registry := by
  let start : Engine := { relay, log }
  let e := start.obeyAll commands
  obtain ⟨calls, hw⟩ := start.works_obeyAll commands
  have hcalls : e.calls.toList = calls := hw.calls_eq
  have hb : ∀ h, e.Balanced h :=
    fun h => hw.balanced ⟨alternating_nil, iff_of_false Bool.false_ne_true Nat.zero_ne_one⟩
  refine ⟨⟨fun h => (hb h).alternating, fun h => ?_, fun hc => ?_, fun hl => ?_⟩,
    fun _ _ _ => registry_of_failed⟩
  · show _ ↔ (turns h e.calls.toList).getLast? = some .running
    rw [(hb h).alternating.getLast?_eq_running_iff, ← (hb h).up, Registry.isUp_iff]
  · exact Works.split (hc ▸ hcalls ▸ hw)
  · obtain ⟨es, hg, hes⟩ := hw.gains
    exact ⟨es, hcalls ▸ hes hl, hg.pending_eq⟩

theorem calls_balanced_after_refusal :
    let relay : Relay := ⟨fun calls _ => if calls.isEmpty then some ⟨["refused"]⟩ else none⟩
    let log : Pipeline := {}
    let start : Engine := { relay, log }
    let e :=
      start.obeyAll [.add "127.0.0.1:1080" .both none true, .startPending, .stopAll, .startPending]
    let place : Endpoint := ⟨.v4 0x7f000001#32, 1080⟩
    let registered := start.obey (.register "127.0.0.1:1080" .both none true)
    e.calls.toList =
      [.refused ⟨1⟩ place, .started ⟨1⟩ place, .stopped ⟨1⟩ place,
        .started ⟨1⟩ place] ∧
    Alternating [.running, .stopped, .running] ∧
      (∃ p, e.registry.get? ⟨1⟩ = some p ∧ p.state = .running) ∧
    (∃ m m', Works start [.refused ⟨1⟩ place] m ∧ Calls m (.started ⟨1⟩ place) m' ∧
      Works m' [.stopped ⟨1⟩ place, .started ⟨1⟩ place] e) ∧
    (registered.startProxy ⟨1⟩).2.registry = registered.registry ∧
    ∃ es, es.filterMap Entry.notice? =
      [(.connected, .data 1), (.disconnected, .data 1), (.connected, .data 1)] ∧
      e.log.pending = (log.pending ++ es).drop ((log.pending ++ es).length - log.limit) := by
  intro relay log start e place registered
  obtain ⟨htallies, hfail⟩ := calls_balanced relay log
    [.add "127.0.0.1:1080" .both none true, .startPending, .stopAll, .startPending]
  change Tallies start e at htallies
  have hcalls : e.calls.toList =
      [.refused ⟨1⟩ place, .started ⟨1⟩ place, .stopped ⟨1⟩ place,
        .started ⟨1⟩ place] := by decide +kernel
  have halternating := htallies.alternating ⟨1⟩
  have hup := (htallies.up ⟨1⟩).2 (by decide +kernel)
  obtain ⟨es, hes, hpending⟩ := htallies.log rfl
  rw [hcalls] at halternating hes
  refine ⟨hcalls, halternating, hup, htallies.moment hcalls, ?_, es, hes, hpending⟩
  exact hfail registered ⟨1⟩ (.startFailed ⟨1⟩ "refused") (by decide +kernel)

end Engine
end SocksGateway
