import SocksGateway.Proofs.Engine.RelayCalls
import SocksGateway.Proofs.Proxy.HandleTable

namespace SocksGateway

namespace ProxyCommand

def endpoint? : ProxyCommand → Option String
  | register endpoint _ _ _ => some endpoint
  | add endpoint _ _ _ => some endpoint
  | _ => none

def registration? : ProxyCommand → Option Registration
  | register endpoint protocols credentials autostart =>
    (Endpoint.ofProxyText? endpoint).map (⟨·, credentials, protocols, autostart⟩)
  | add endpoint protocols credentials autostart =>
    (Endpoint.ofProxyText? endpoint).map (⟨·, credentials, protocols, autostart⟩)
  | _ => none

end ProxyCommand

namespace Engine

def answer? (e : Engine) : ProxyCommand → Option (Except GatewayError Handle)
  | .register endpoint protocols credentials autostart =>
    some (e.register endpoint protocols credentials autostart).1
  | .add endpoint protocols credentials start =>
    some (e.addProxy endpoint protocols credentials start).1
  | _ => none

/-- The handle that an answer gives: a proxy that does not start has one all the same. -/
def given? : Except GatewayError Handle → Option Handle
  | .ok h => some h
  | .error (.startFailed h _) => some h
  | .error _ => none

def issue? (e : Engine) (c : ProxyCommand) : Option Handle := (e.answer? c).bind given?

/-- The handles that are given in a run. -/
def issued (e : Engine) : List ProxyCommand → List Handle
  | [] => []
  | c :: commands => (e.issue? c).toList ++ (e.obey c).issued commands

/-- All that was done to a registry on the way from one engine to another. -/
def Develops (e : Engine) (added : List Registration) (e' : Engine) : Prop :=
  ∃ cs, e'.registry = e.registry.changes cs ∧ cs.flatMap RegistryChange.added = added

theorem Develops.trans {e m e' : Engine} {as bs : List Registration} (h : e.Develops as m)
    (h' : m.Develops bs e') :
    e.Develops (as ++ bs) e' := by
  obtain ⟨cs, hm, has⟩ := h
  obtain ⟨ds, he, hbs⟩ := h'
  refine ⟨cs ++ ds, ?_, ?_⟩
  · rw [he, hm, Registry.changes_append]
  · rw [List.flatMap_append, has, hbs]

theorem develops_refl (e : Engine) : e.Develops [] e := ⟨[], rfl, rfl⟩

theorem develops_startProxy (e : Engine) (h : Handle) : e.Develops [] (e.startProxy h).2 := by
  cases hp : e.registry.get? h with
  | none =>
    rw [startProxy_of_unknown hp]
    exact e.develops_refl
  | some p =>
    cases hr : p.isRunning with
    | true =>
      rw [startProxy_of_running hp hr]
      exact e.develops_refl
    | false =>
      rcases startProxy_of_stopped hp hr with hs | ⟨failure, hs⟩
      · rw [hs]
        exact ⟨[.setState p.handle .running], rfl, rfl⟩
      · rw [hs]
        exact ⟨[], rfl, rfl⟩

theorem develops_further_startProxy {e₀ e : Engine} (h : e₀.Develops [] e) (k : Handle) :
    e₀.Develops [] (e.startProxy k).2 := h.trans (e.develops_startProxy k)

/-- A command registers what it asks for, under the next handle, and does no more than to bring
proxies up or down. -/
theorem develops_obey (e : Engine) (c : ProxyCommand) :
    e.Develops c.registration?.toList (e.obey c) ∧
      e.issue? c = c.registration?.map fun _ => e.registry.nextHandle := by
  cases c with
  | register endpoint protocols credentials autostart =>
    cases ha : Endpoint.ofProxyText? endpoint with
    | none =>
      have hr := e.register_of_none protocols credentials ha autostart
      simp only [obey, issue?, answer?, hr, ProxyCommand.registration?, ha]
      exact ⟨e.develops_refl, rfl⟩
    | some address =>
      obtain ⟨log, hr⟩ := e.register_of_some protocols credentials ha autostart
      simp only [obey, issue?, answer?, hr, ProxyCommand.registration?, ha]
      exact ⟨⟨[.insert ⟨address, credentials, protocols, autostart⟩], rfl, rfl⟩, rfl⟩
  | add endpoint protocols credentials start =>
    cases ha : Endpoint.ofProxyText? endpoint with
    | none =>
      have hr := e.addProxy_of_none protocols credentials ha start
      simp only [obey, issue?, answer?, hr, ProxyCommand.registration?, ha]
      exact ⟨e.develops_refl, rfl⟩
    | some address =>
      cases start with
      | false =>
        obtain ⟨log, hr⟩ := e.addProxy_unstarted protocols credentials ha
        simp only [obey, issue?, answer?, hr, ProxyCommand.registration?, ha]
        exact ⟨⟨[.insert ⟨address, credentials, protocols, false⟩], rfl, rfl⟩, rfl⟩
      | true =>
        obtain ⟨log, p, hp, hr | ⟨failure, hr⟩⟩ :=
          e.addProxy_started protocols credentials ha
        · simp only [obey, issue?, answer?, hr, ProxyCommand.registration?, ha, ← hp]
          exact ⟨⟨[.insert ⟨address, credentials, protocols, true⟩,
            .setState p.handle .running], rfl, rfl⟩, rfl⟩
        · simp only [obey, issue?, answer?, hr, ProxyCommand.registration?, ha, ← hp]
          exact ⟨⟨[.insert ⟨address, credentials, protocols, true⟩], rfl, rfl⟩, rfl⟩
  | start h => exact ⟨e.develops_startProxy h, rfl⟩
  | startPending =>
    exact ⟨startEach_keeps (P := e.Develops [])
      (fun _ k h => develops_further_startProxy h k) e.develops_refl
      e.registry.pending, rfl⟩
  | stopAll =>
    refine ⟨stopAll_keeps (P := e.Develops []) (fun m p h => ?_) e.develops_refl, rfl⟩
    exact h.trans ⟨[.setState p.handle .stopped], rfl, rfl⟩

theorem obeyAll_append (e : Engine) (before after : List ProxyCommand) :
    e.obeyAll (before ++ after) = (e.obeyAll before).obeyAll after := List.foldl_append

theorem develops_obeyAll (e : Engine) (commands : List ProxyCommand) :
    e.Develops (commands.filterMap ProxyCommand.registration?) (e.obeyAll commands) ∧
      e.issued commands = (List.range' (e.registry.size + 1)
        (commands.filterMap ProxyCommand.registration?).length).map Handle.mk := by
  induction commands generalizing e with
  | nil => exact ⟨e.develops_refl, rfl⟩
  | cons c commands ih =>
    obtain ⟨hnow, hissue⟩ := e.develops_obey c
    obtain ⟨hlater, hissued⟩ := ih (e.obey c)
    rw [issued, hissued, hissue, List.filterMap_cons]
    have hboth := hnow.trans hlater
    obtain ⟨cs, hcs, hadded⟩ := hnow
    have hsize := e.registry.size_changes cs
    rw [← hcs, hadded] at hsize
    cases hc : c.registration? with
    | none =>
      rw [hc] at hsize hboth
      rw [hsize]
      exact ⟨hboth, rfl⟩
    | some reg =>
      rw [hc] at hsize hboth
      rw [hsize]
      exact ⟨hboth, rfl⟩

theorem obey_of_rejected (e : Engine) {c : ProxyCommand} {text : String}
    (hc : c.endpoint? = some text) (ht : Endpoint.ofProxyText? text = none) :
    e.answer? c = some (.error (.invalidEndpoint text)) ∧ e.obey c = e := by
  cases c with
  | register endpoint protocols credentials autostart =>
    cases hc
    simp [answer?, obey, e.register_of_none protocols credentials ht autostart]
  | add endpoint protocols credentials start =>
    cases hc
    simp [answer?, obey, e.addProxy_of_none protocols credentials ht start]
  | _ => cases hc

/-- The handles of a run and what they name, from an engine that has no proxies. -/
structure Identifies (start : Engine) (commands : List ProxyCommand) (e : Engine) : Prop where
  issued : start.issued commands =
    (List.range' 1 (commands.filterMap ProxyCommand.registration?).length).map Handle.mk
  handles : e.registry.proxies.map Proxy.handle = start.issued commands
  registrations : e.registry.proxies.map Proxy.registration =
    commands.filterMap ProxyCommand.registration?
  rejected {before after : List ProxyCommand} {c : ProxyCommand}
    (hc : commands = before ++ c :: after)
    {text : String} (ht : c.endpoint? = some text) (hn : Endpoint.ofProxyText? text = none) :
    (start.obeyAll before).answer? c = some (.error (.invalidEndpoint text)) ∧
      (start.obeyAll before).obey c = start.obeyAll before
  accepted {before after : List ProxyCommand} {c : ProxyCommand}
    (hc : commands = before ++ c :: after)
    {reg : Registration} (hr : c.registration? = some reg) :
    ∃ h state, (start.obeyAll before).issue? c = some h ∧
      (start.obeyAll before).registry.get? h = none ∧
      e.registry.get? h = some { reg.proxy h with state }
  kept {before after : List ProxyCommand} (hc : commands = before ++ after) {h : Handle} {p : Proxy}
    (hp : (start.obeyAll before).registry.get? h = some p) :
    ∃ state, e.registry.get? h = some { p with state }
  found (h : Handle) (p : Proxy) : e.registry.get? h = some p ↔
    p ∈ e.registry.proxies ∧ p.handle = h
  contained (h : Handle) : e.registry.contains h = true ↔ h ∈ start.issued commands
  size : e.registry.size = (start.issued commands).length
  isEmpty : e.registry.isEmpty = true ↔ start.issued commands = []
  stored : ∃ cs, e.registry = start.registry.changes cs ∧
    cs.flatMap RegistryChange.added = commands.filterMap ProxyCommand.registration? ∧
    ∀ t, HandleTable.Reaches {} cs t →
      t.listed = e.registry.proxies ∧ (∀ h, t.lookup h = e.registry.get? h) ∧
      (∀ h, t.contains h = e.registry.contains h) ∧ t.size = e.registry.size ∧
      (∀ x ∈ t.entries, x.1 = x.2.handle) ∧ (t.entries.map Prod.fst).Nodup

/-- The handles of a run are numbered from one in the order of its registrations, whatever the relay
answers. Each finds what was registered under it and nothing else from then on, and a table of the
proxies lists the same. -/
theorem handles_identify (relay : Relay) (log : Pipeline) (commands : List ProxyCommand)
    (hroom : (commands.filterMap ProxyCommand.registration?).length < UInt64.size - 1) :
    Identifies { relay, log } commands (({ relay, log } : Engine).obeyAll commands) := by
  let start : Engine := { relay, log }
  let e := start.obeyAll commands
  obtain ⟨⟨cs, hcs, hadded⟩, hissued⟩ := start.develops_obeyAll commands
  have hregs : e.registry.proxies.map Proxy.registration =
      commands.filterMap ProxyCommand.registration? := by
    rw [show e.registry = _ from hcs, Registry.registrations_changes, hadded]
    rfl
  have hsize : e.registry.size = (commands.filterMap ProxyCommand.registration?).length := by
    rw [← hregs, List.length_map]
    rfl
  have hhandles : e.registry.proxies.map Proxy.handle = start.issued commands := by
    have hnumbered := congrArg (List.map Handle.mk) e.registry.numbered
    rw [List.map_map] at hnumbered
    rw [hissued, ← hsize]
    exact hnumbered
  have hkept {before after : List ProxyCommand} (hc : commands = before ++ after)
      {h : Handle} {p : Proxy}
      (hp : (start.obeyAll before).registry.get? h = some p) :
        ∃ state, e.registry.get? h = some { p with state } := by
    obtain ⟨⟨ds, hds, -⟩, -⟩ := (start.obeyAll before).develops_obeyAll after
    have he : e.registry = (start.obeyAll before).registry.changes ds := by
      rw [← hds, ← obeyAll_append, ← hc]
    rw [he]
    exact Registry.get?_changes hp ds
  constructor
  case issued => exact hissued
  case handles => exact hhandles
  case registrations => exact hregs
  case rejected => exact fun _ _ ht hn => obey_of_rejected _ ht hn
  case accepted =>
    intro before after c hc reg hr
    obtain ⟨⟨ds, hds, hone⟩, hissue⟩ := (start.obeyAll before).develops_obey c
    rw [hr] at hone hissue
    obtain ⟨state, hget⟩ := Registry.get?_of_added (r := (start.obeyAll before).registry) hone
    rw [← hds] at hget
    have hsplit : commands = (before ++ [c]) ++ after := by
      rw [hc, List.append_assoc, List.singleton_append]
    have hobeyed : start.obeyAll (before ++ [c]) = (start.obeyAll before).obey c :=
      obeyAll_append start before [c]
    obtain ⟨state', hlast⟩ := hkept hsplit (hobeyed ▸ hget)
    exact ⟨_, state', hissue, Registry.get?_nextHandle _, hlast⟩
  case kept => exact hkept
  case found => exact e.registry.get?_eq_some_iff
  case contained =>
    intro h
    rw [← hhandles, List.mem_map, Registry.contains, Option.isSome_iff_exists]
    exact exists_congr fun p => e.registry.get?_eq_some_iff h p
  case size =>
    rw [← hhandles, List.length_map]
    rfl
  case isEmpty =>
    rw [← hhandles, List.map_eq_nil_iff]
    exact List.isEmpty_iff
  case stored =>
    refine ⟨cs, hcs, hadded, fun t ht => ?_⟩
    have hrep : t.Represents e.registry := by
      have hlimit : (start.registry.changes cs).size + 1 < UInt64.size := by
        rw [← hcs, show (start.obeyAll commands).registry.size = _ from hsize]
        omega
      have h := HandleTable.represents_empty.changes ht hlimit
      rwa [← hcs] at h
    exact ⟨hrep.listed_eq, hrep.lookup_eq, hrep.contains_eq, hrep.size_eq,
      fun x hx => ((hrep.mem_entries_iff x).1 hx).2, hrep.keys_nodup⟩

theorem handles_identify_after_refusal :
    let relay : Relay := ⟨fun _ _ => some ⟨["refused"]⟩⟩
    let start : Engine := { relay }
    let commands : List ProxyCommand :=
      [.add "[::1]:1081" .tcp none true, .register "nowhere" .both none false,
        .add "127.0.0.1:1080" .both none true, .startPending, .stopAll]
    let e := start.obeyAll commands
    start.issued commands = [⟨1⟩, ⟨2⟩] ∧
      e.registry.proxies.map Proxy.handle = [⟨1⟩, ⟨2⟩] ∧
      (∀ h, e.registry.contains h = true ↔ h ∈ [⟨1⟩, ⟨2⟩]) ∧
      ∃ h state,
        (start.obeyAll (commands.take 2)).issue? (.add "127.0.0.1:1080" .both none true) =
          some h ∧
        (start.obeyAll (commands.take 2)).registry.get? h = none ∧
        e.registry.get? h =
          some ⟨h, ⟨.v4 0x7f000001#32, 1080⟩, none, .both, state, true⟩ := by
  intro relay start commands e
  have hnames := handles_identify relay {} commands (by decide +kernel)
  change Identifies start commands e at hnames
  have hissued : start.issued commands = [⟨1⟩, ⟨2⟩] :=
    hnames.issued.trans (by decide +kernel)
  have hsplit :
      commands = commands.take 2 ++ .add "127.0.0.1:1080" .both none true :: commands.drop 3 := rfl
  have hregistration : (ProxyCommand.add "127.0.0.1:1080" .both none true).registration? =
      some ⟨⟨.v4 0x7f000001#32, 1080⟩, none, .both, true⟩ := by decide +kernel
  exact ⟨hissued, hissued ▸ hnames.handles, fun h => hissued ▸ hnames.contained h,
    hnames.accepted hsplit hregistration⟩

end Engine
end SocksGateway
