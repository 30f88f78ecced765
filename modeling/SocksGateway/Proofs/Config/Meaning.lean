import Mathlib.Data.List.Induction
import SocksGateway.Proofs.Config.Validity
import SocksGateway.Proofs.Policy.Product
import SocksGateway.Proofs.Routing.Configured

/-!
What a configuration says about the rule of a process. The changes it asks for come in an order; the
rule that they make is told by what the sections of the configuration mention.
-/
namespace SocksGateway

namespace PolicyTable

def edit (t : PolicyTable) (c : RuleChange) : PolicyTable := t.put ((t.ruleFor c.process).edit c)

theorem get?_edit (t : PolicyTable) (c : RuleChange) (name : String) :
    (t.edit c).get? name = if ProcessName.key c.process = ProcessName.key name then
      some ((t.ruleFor c.process).edit c) else t.get? name := by
  have hkey : ((t.ruleFor c.process).edit c).key = ProcessName.key c.process :=
    t.key_ruleFor c.process
  rw [edit, get?_put, hkey]

theorem get?_edits (cs : List RuleChange) (name : String) :
    (cs.foldl edit empty).get? name =
      Rule.made (cs.filter fun c => ProcessName.key c.process = ProcessName.key name) := by
  induction cs using List.reverseRecOn with
  | nil => rfl
  | append_singleton cs c ih =>
    rw [List.foldl_concat, get?_edit, List.filter_append, List.filter_singleton]
    by_cases hk : ProcessName.key c.process = ProcessName.key name
    · rw [if_pos hk, decide_eq_true hk, cond_true, Rule.made_concat, ← ih, ← get?_congr _ hk]
      rfl
    · rw [if_neg hk, decide_eq_false hk, cond_false, List.append_nil, ih]

end PolicyTable

namespace NetworkSet

theorem eraseDups_concat (ms : List Network) (m : Network) :
    (ms ++ [m]).eraseDups = if m ∈ ms.eraseDups then ms.eraseDups else ms.eraseDups ++ [m] := by
  rw [List.eraseDups_append, List.removeAll, List.filter_singleton]
  by_cases hm : m ∈ ms
  · rw [if_pos (List.mem_eraseDups.2 hm), List.elem_eq_true_of_mem hm]
    exact List.append_nil _
  · rw [if_neg fun h => hm (List.mem_eraseDups.1 h),
      Bool.eq_false_iff.2 fun h => hm (List.mem_of_elem_eq_true h)]
    rfl

theorem ranges_of_inserts (ns : List Network) :
    (after {} (ns.map .insert)).ranges = (ns.map Network.truncate).eraseDups := by
  induction ns using List.reverseRecOn with
  | nil => rfl
  | append_singleton ns n ih =>
    rw [List.map_append, after, List.foldl_append, List.map_append]
    show ((after {} (ns.map .insert)).insert n).ranges = _
    rw [ranges_insert, ih]
    exact (eraseDups_concat _ _).symm

end NetworkSet

theorem Network.map_ofRangeText? {texts : List String}
    (h : ∀ text ∈ texts, ∃ n, ofRangeText? text = some n) :
    texts.map ofRangeText? = (texts.filterMap ofRangeText?).map some := by
  induction texts with
  | nil => rfl
  | cons text texts ih =>
    obtain ⟨⟨n, hn⟩, htexts⟩ := List.forall_mem_cons.1 h
    rw [List.map_cons, ih htexts, List.filterMap_cons_some hn, List.map_cons, hn]

def RangeSet.texts (s : RuleSettings) : RangeSet → List String
  | allowed => s.allowed
  | denied => s.denied

namespace RuleSettings

theorem mem_changes {s : RuleSettings} {x : RuleChange} :
    x ∈ s.changes ↔ ∃ side : RangeSet, ∃ range ∈ side.texts s,
      side.add s.process range = x := by
  rw [changes, List.mem_append, List.mem_map, List.mem_map]
  constructor
  · rintro (h | h)
    · exact ⟨.allowed, h⟩
    · exact ⟨.denied, h⟩
  · rintro ⟨side, h⟩
    cases side with
    | allowed => exact .inl h
    | denied => exact .inr h

theorem process_of_mem_changes {s : RuleSettings} {x : RuleChange} (h : x ∈ s.changes) :
    x.process = s.process := by
  obtain ⟨side, range, -, rfl⟩ := mem_changes.1 h
  cases side <;> rfl

theorem mem_ranges_of_texts {s : RuleSettings} {side : RangeSet} {range : String}
    (h : range ∈ side.texts s) :
    range ∈ s.allowed ++ s.denied := by
  cases side with
  | allowed => exact List.mem_append_left _ h
  | denied => exact List.mem_append_right _ h

theorem changes_ne_nil_iff (s : RuleSettings) :
    s.changes ≠ [] ↔ s.allowed ++ s.denied ≠ [] := by
  rw [changes, Ne, Ne, List.append_eq_nil_iff, List.append_eq_nil_iff,
    List.map_eq_nil_iff, List.map_eq_nil_iff]

theorem filterMap_call? (s : RuleSettings) (side : RangeSet) :
    s.changes.filterMap side.call? =
      ((side.texts s).filterMap Network.ofRangeText?).map .insert := by
  rw [changes, List.filterMap_append, List.filterMap_map, List.filterMap_map, List.map_filterMap]
  cases side with
  | allowed =>
    show _ ++ s.denied.filterMap (fun _ => none) = _
    rw [List.filterMap_none, List.append_nil]
    rfl
  | denied =>
    show s.allowed.filterMap (fun _ => none) ++ _ = _
    rw [List.filterMap_none, List.nil_append]
    rfl

end RuleSettings

namespace Config

def entered (s : ProxySettings) (h : Handle) : Option Proxy :=
  (Endpoint.ofProxyText? s.endpoint).map fun address =>
    ⟨h, address, s.credentials, s.protocols, .stopped, s.start⟩

def enteredFrom (n : Nat) (proxies : List ProxySettings) : List (Option Proxy) :=
  (proxies.zipIdx n).map fun (s, i) => entered s ⟨i + 1⟩

def assignedFrom (n : Nat) (proxies : List ProxySettings) : List RuleChange :=
  (proxies.zipIdx n).flatMap fun (s, i) => s.processes.map (RuleChange.associate · ⟨i + 1⟩)

theorem enteredFrom_cons (n : Nat) (s : ProxySettings) (proxies : List ProxySettings) :
    enteredFrom n (s :: proxies) = entered s ⟨n + 1⟩ :: enteredFrom (n + 1) proxies := rfl

theorem assignedFrom_cons (n : Nat) (s : ProxySettings) (proxies : List ProxySettings) :
    assignedFrom n (s :: proxies) =
      s.processes.map (RuleChange.associate · ⟨n + 1⟩) ++ assignedFrom (n + 1) proxies := rfl

def edits (c : Config) : List RuleChange := assignedFrom 0 c.proxies ++ c.changes

def texts (c : Config) (side : RangeSet) (key : String) : List String :=
  (c.rules.filter fun s => ProcessName.key s.process = key).flatMap (side.texts ·)

def Assigns (c : Config) (key : String) (h : Handle) : Prop :=
  ∃ i s, c.proxies[i]? = some s ∧ h = ⟨i + 1⟩ ∧
    ∃ p ∈ s.processes, ProcessName.key p = key

def Excludes (c : Config) (key : String) : Prop := ∃ p ∈ c.excludes, ProcessName.key p = key

/-- A table without ranges does not count. -/
def Mentions (c : Config) (key : String) : Prop :=
  (∃ h, c.Assigns key h) ∨ c.Excludes key ∨
    ∃ s ∈ c.rules, ProcessName.key s.process = key ∧ s.allowed ++ s.denied ≠ []

/-- A rule is as the configuration says of a key. -/
structure Meant (c : Config) (key : String) (r : Rule) : Prop where
  proxy : ∀ h, r.proxy = some h ↔ c.Assigns key h
  excluded : r.excluded = true ↔ c.Excludes key
  ranges : ∀ side : RangeSet, ∃ ns : List Network,
    (c.texts side key).map Network.ofRangeText? = ns.map some ∧
    (side.of r).ranges = (ns.map Network.truncate).eraseDups

theorem assignedFrom_zero (c : Config) :
    assignedFrom 0 c.proxies = c.associations.map fun a => .associate a.2 ⟨a.1 + 1⟩ := by
  rw [assignedFrom, associations, List.map_flatMap]
  simp only [List.map_map]
  rfl

section
variable {c : Config} {key : String}

theorem mem_edits {x : RuleChange} :
    x ∈ c.edits ↔ (∃ a ∈ c.associations, .associate a.2 ⟨a.1 + 1⟩ = x) ∨
    (∃ p ∈ c.excludes, .exclude p = x) ∨ ∃ s ∈ c.rules, x ∈ s.changes := by
  rw [edits, changes, assignedFrom_zero, List.mem_append, List.mem_append, List.mem_map,
    List.mem_map, List.mem_flatMap]

theorem assigns_iff {h : Handle} :
    c.Assigns key h ↔ ∃ a ∈ c.associations, h = ⟨a.1 + 1⟩ ∧
      ProcessName.key a.2 = key := by
  constructor
  · rintro ⟨i, s, hs, rfl, p, hp, hk⟩
    exact ⟨(i, p), mem_associations.2 ⟨s, hs, hp⟩, rfl, hk⟩
  · rintro ⟨⟨i, p⟩, ha, rfl, hk⟩
    obtain ⟨s, hs, hp⟩ := mem_associations.1 ha
    exact ⟨i, s, hs, rfl, p, hp, hk⟩

theorem Valid.assigns_unique (h : c.Valid) {k k' : Handle} (hk : c.Assigns key k)
    (hk' : c.Assigns key k') : k = k' := by
  obtain ⟨a, ha, rfl, hkey⟩ := assigns_iff.1 hk
  obtain ⟨b, hb, rfl, hkey'⟩ := assigns_iff.1 hk'
  rw [h.owners a ha b hb (hkey.trans hkey'.symm)]

theorem exists_edit_iff :
    (∃ x ∈ c.edits, ProcessName.key x.process = key) ↔ c.Mentions key := by
  simp only [mem_edits, Mentions, assigns_iff]
  constructor
  · rintro ⟨x, ⟨a, ha, rfl⟩ | ⟨p, hp, rfl⟩ | ⟨s, hs, hx⟩, hk⟩
    · exact .inl ⟨_, a, ha, rfl, hk⟩
    · exact .inr (.inl ⟨p, hp, hk⟩)
    · rw [RuleSettings.process_of_mem_changes hx] at hk
      exact .inr (.inr ⟨s, hs, hk, s.changes_ne_nil_iff.1 (List.ne_nil_of_mem hx)⟩)
  · rintro (⟨k, a, ha, -, hk⟩ | ⟨p, hp, hk⟩ | ⟨s, hs, hk, hne⟩)
    · exact ⟨_, .inl ⟨a, ha, rfl⟩, hk⟩
    · exact ⟨_, .inr (.inl ⟨p, hp, rfl⟩), hk⟩
    · obtain ⟨x, hx⟩ := List.exists_mem_of_ne_nil _ (s.changes_ne_nil_iff.2 hne)
      exact ⟨x, .inr (.inr ⟨s, hs, hx⟩), by rwa [RuleSettings.process_of_mem_changes hx]⟩

def editsTo (c : Config) (key : String) : List RuleChange :=
  c.edits.filter fun x => ProcessName.key x.process = key

theorem mem_handles {h : Handle} :
    h ∈ (c.editsTo key).filterMap RuleChange.handle? ↔ c.Assigns key h := by
  rw [List.mem_filterMap, assigns_iff]
  simp only [editsTo, List.mem_filter, decide_eq_true_iff, mem_edits]
  constructor
  · rintro ⟨x, ⟨⟨a, ha, rfl⟩ | ⟨p, hp, rfl⟩ | ⟨s, hs, hx⟩, hk⟩, hh⟩
    · cases hh
      exact ⟨a, ha, rfl, hk⟩
    · cases hh
    · obtain ⟨side, range, -, rfl⟩ := RuleSettings.mem_changes.1 hx
      cases side <;> cases hh
  · rintro ⟨a, ha, rfl, hk⟩
    exact ⟨_, ⟨.inl ⟨a, ha, rfl⟩, hk⟩, rfl⟩

theorem exclude_mem_editsTo : (∃ p, .exclude p ∈ c.editsTo key) ↔ c.Excludes key := by
  simp only [editsTo, List.mem_filter, decide_eq_true_iff, mem_edits]
  constructor
  · rintro ⟨p, ⟨a, ha, hx⟩ | ⟨q, hq, hx⟩ | ⟨s, hs, hx⟩, hk⟩
    · cases hx
    · cases hx
      exact ⟨p, hq, hk⟩
    · obtain ⟨side, range, -, hx⟩ := RuleSettings.mem_changes.1 hx
      cases side <;> cases hx
  · rintro ⟨p, hp, hk⟩
    exact ⟨p, .inr (.inl ⟨p, hp, rfl⟩), hk⟩

theorem filterMap_call?_rules (rules : List RuleSettings) (side : RangeSet) (key : String) :
    ((rules.flatMap RuleSettings.changes).filter fun x => ProcessName.key x.process =
      key).filterMap side.call? =
      (((rules.filter fun s => ProcessName.key s.process = key).flatMap (side.texts ·)).filterMap
        Network.ofRangeText?).map .insert := by
  induction rules with
  | nil => rfl
  | cons s rules ih =>
    rw [List.flatMap_cons, List.filter_append, List.filterMap_append, ih]
    by_cases hk : ProcessName.key s.process = key
    · have hall : ∀ x ∈ s.changes, decide (ProcessName.key x.process = key) = true :=
        fun x hx => by
        rw [RuleSettings.process_of_mem_changes hx, decide_eq_true hk]
      rw [List.filter_eq_self.2 hall, List.filter_cons,
        if_pos (decide_eq_true hk), List.flatMap_cons, List.filterMap_append,
          List.map_append, s.filterMap_call?]
    · have hnone : ∀ x ∈ s.changes, ¬ decide (ProcessName.key x.process = key) = true :=
        fun x hx => by
        rwa [RuleSettings.process_of_mem_changes hx, decide_eq_true_iff]
      rw [List.filter_eq_nil_iff.2 hnone, List.filter_cons, if_neg (by rwa [decide_eq_true_iff])]
      rfl

theorem filterMap_call?_editsTo (c : Config) (side : RangeSet) (key : String) :
    (c.editsTo key).filterMap side.call? =
      ((c.texts side key).filterMap Network.ofRangeText?).map .insert := by
  have hassigned :
      ((assignedFrom 0 c.proxies).filter fun x => ProcessName.key x.process = key).filterMap
      side.call? = [] := by
    rw [List.filterMap_eq_nil_iff, assignedFrom_zero]
    intro x hx
    obtain ⟨a, -, rfl⟩ := List.mem_map.1 (List.mem_of_mem_filter hx)
    cases side <;> rfl
  have hexcluded :
      ((c.excludes.map .exclude).filter fun x => ProcessName.key x.process = key).filterMap
      side.call? = [] := by
    rw [List.filterMap_eq_nil_iff]
    intro x hx
    obtain ⟨p, -, rfl⟩ := List.mem_map.1 (List.mem_of_mem_filter hx)
    cases side <;> rfl
  rw [editsTo, edits, changes, List.filter_append, List.filter_append,
    List.filterMap_append, List.filterMap_append, hassigned, hexcluded,
      filterMap_call?_rules, texts]
  rfl

theorem Valid.texts_read (h : c.Valid) (side : RangeSet) :
    ∀ text ∈ c.texts side key, ∃ n, Network.ofRangeText? text = some n := by
  intro text htext
  obtain ⟨s, hs, htext⟩ := List.mem_flatMap.1 htext
  exact h.ranges s (List.mem_of_mem_filter hs) text (RuleSettings.mem_ranges_of_texts htext)

theorem Valid.meant_of_made (h : c.Valid) {r : Rule} (hr : Rule.made (c.editsTo key) = some r) :
    c.Meant key r := by
  have hfits : r.Fits (c.editsTo key) := (Rule.made_eq_some_iff _ r).1 hr
  refine ⟨fun k => ?_, hfits.excluded.trans exclude_mem_editsTo, fun side => ?_⟩
  · rw [hfits.proxy]
    constructor
    · intro hk
      exact mem_handles.1 (List.mem_of_getLast? hk)
    · intro hk
      -- the last assignment wins, and a valid configuration has none that it could win over
      obtain ⟨k', hk'⟩ := Option.ne_none_iff_exists'.1
        (List.getLast?_eq_none_iff.not.2 (List.ne_nil_of_mem (mem_handles.2 hk)))
      rw [hk', h.assigns_unique hk (mem_handles.1 (List.mem_of_getLast? hk'))]
  · refine ⟨(c.texts side key).filterMap Network.ofRangeText?, ?_, ?_⟩
    · exact Network.map_ofRangeText? (h.texts_read side)
    · have hset := (NetworkSet.fits_iff _ _).1 (hfits.ranges side)
      rw [hset, filterMap_call?_editsTo, NetworkSet.ranges_of_inserts]

end
end Config
end SocksGateway
