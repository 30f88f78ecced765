import Mathlib.Data.List.Basic
import SocksGateway.Proofs.Config.Validity

/-!
The fault that validation reports. Each check goes through what it looks at in the order in which it
is written, and the first fault of the first check that finds one is reported.
-/
namespace SocksGateway

def First {α : Type} (P : α → Prop) (as : List α) (a : α) : Prop :=
  ∃ before after, as = before ++ a :: after ∧ P a ∧ ∀ b ∈ before, ¬ P b

theorem first_iff_find? {α : Type} {P : α → Prop} {p : α → Bool}
    (hp : ∀ a, p a = true ↔ P a) {as : List α} {a : α} :
    First P as a ↔ as.find? p = some a := by
  simp only [First, List.find?_eq_some_iff_append, ← hp, Bool.not_eq_true,
    Bool.not_eq_eq_eq_not, Bool.not_true]
  constructor
  · rintro ⟨before, after, has, ha, hbefore⟩
    exact ⟨ha, before, after, has, hbefore⟩
  · rintro ⟨ha, before, after, has, hbefore⟩
    exact ⟨before, after, has, ha, hbefore⟩

def ProxySettings.Unreadable (s : ProxySettings) : Prop := Endpoint.ofProxyText? s.endpoint = none

namespace Config

def writtenRanges (c : Config) : List (String × String) :=
  c.rules.flatMap fun r => (r.allowed ++ r.denied).map (·, r.process)

def UnreadableRange (x : String × String) : Prop := Network.ofRangeText? x.1 = none

/-- A proxy that comes before the one of an association has the same process. -/
def Claimed (c : Config) (a : Nat × String) : Prop :=
  ∃ j s, c.proxies[j]? = some s ∧ j < a.1 ∧
    ∃ p ∈ s.processes, ProcessName.key p = ProcessName.key a.2

/-- What is wrong first: the limit, then an endpoint, then a range, then an association. -/
inductive FirstFault (c : Config) : ConfigFault → Prop
  | limit (zero : c.logging.limit = 0) : FirstFault c .zeroLogLimit
  | endpoint {s : ProxySettings} (limit : c.logging.limit ≠ 0)
      (first : First ProxySettings.Unreadable c.proxies s) :
      FirstFault c (.invalidEndpoint s.endpoint)
  | range {text process : String} (limit : c.logging.limit ≠ 0)
      (endpoints : ∀ s ∈ c.proxies, ¬ s.Unreadable)
      (first : First UnreadableRange c.writtenRanges (text, process)) :
        FirstFault c (.invalidRange text process)
  | association {i : Nat} {p : String} (limit : c.logging.limit ≠ 0)
      (endpoints : ∀ s ∈ c.proxies, ¬ s.Unreadable)
      (ranges : ∀ x ∈ c.writtenRanges,
        ¬ UnreadableRange x) (first : First c.Claimed c.associations (i, p)) :
      FirstFault c (.conflictingAssociation p)

theorem limitFault_eq_some_iff {c : Config} {fault : ConfigFault} :
    c.limitFault = some fault ↔ c.logging.limit = 0 ∧ fault = .zeroLogLimit := by
  unfold limitFault
  split <;> simp_all [eq_comm]

theorem limitFault_eq_none_iff {c : Config} : c.limitFault = none ↔ c.logging.limit ≠ 0 := by
  unfold limitFault
  split <;> simp_all

theorem endpointFault_eq_none_iff {c : Config} :
    c.endpointFault = none ↔ ∀ s ∈ c.proxies, ¬ s.Unreadable := by
  simp [endpointFault, List.find?_eq_none, ProxySettings.Unreadable]

theorem endpointFault_eq_some_iff {c : Config} {fault : ConfigFault} :
    c.endpointFault = some fault ↔
      ∃ s, First ProxySettings.Unreadable c.proxies s ∧
        .invalidEndpoint s.endpoint = fault := by
  have hp : ∀ s : ProxySettings, (Endpoint.ofProxyText? s.endpoint).isNone = true ↔
      s.Unreadable :=
    fun s => Option.isNone_iff_eq_none
  rw [endpointFault, Option.map_eq_some_iff]
  simp only [first_iff_find? hp]

theorem rangeFault_eq (c : Config) :
    c.rangeFault = (c.writtenRanges.find? fun x => (Network.ofRangeText? x.1).isNone).map fun x =>
      .invalidRange x.1 x.2 := by
  rw [writtenRanges, List.find?_flatMap, List.map_findSome?, rangeFault]
  congr 1
  funext r
  simp only [ruleFault, Function.comp_apply, List.find?_map, Option.map_map]
  rfl

theorem rangeFault_eq_none_iff {c : Config} :
    c.rangeFault = none ↔ ∀ x ∈ c.writtenRanges, ¬ UnreadableRange x := by
  rw [rangeFault_eq, Option.map_eq_none_iff, List.find?_eq_none]
  simp [UnreadableRange]

theorem rangeFault_eq_some_iff {c : Config} {fault : ConfigFault} :
    c.rangeFault = some fault ↔
      ∃ x : String × String, First UnreadableRange c.writtenRanges x ∧
        .invalidRange x.1 x.2 = fault := by
  have hp : ∀ x : String × String, (Network.ofRangeText? x.1).isNone = true ↔
      UnreadableRange x :=
    fun x => Option.isNone_iff_eq_none
  rw [rangeFault_eq, Option.map_eq_some_iff]
  simp only [first_iff_find? hp]

theorem associations_pairwise (c : Config) : c.associations.Pairwise (·.1 ≤ ·.1) := by
  have hpositions : c.proxies.zipIdx.Pairwise (·.2 ≤ ·.2) := by
    rw [← List.pairwise_map (f := Prod.snd), List.zipIdx_map_snd]
    exact List.pairwise_le_range' 1
  rw [associations, List.pairwise_flatMap]
  constructor
  · intro x _
    exact List.pairwise_map.2 (List.pairwise_of_forall fun _ _ => Nat.le_refl _)
  · refine hpositions.imp fun {x y} hxy a ha b hb => ?_
    obtain ⟨p, -, rfl⟩ := List.mem_map.1 ha
    obtain ⟨q, -, rfl⟩ := List.mem_map.1 hb
    exact hxy

def overtaken (as : List (Nat × String)) (a : Nat × String) : Bool :=
  as.any fun b => b.1 < a.1 && ProcessName.key b.2 == ProcessName.key a.2

theorem conflicts_before_eq {before rest : List (Nat × String)} {a : Nat × String}
    (h : (before.reverse ++ a :: rest).Pairwise (·.1 ≤ ·.1)) :
    before.any (conflicts a) = overtaken (before.reverse ++ a :: rest) a := by
  obtain ⟨-, hrest, hbefore⟩ := List.pairwise_append.1 h
  have hle : ∀ b ∈ before, b.1 ≤ a.1 :=
    fun b hb => hbefore b (List.mem_reverse.2 hb) a List.mem_cons_self
  have hge : ∀ b ∈ a :: rest, a.1 ≤ b.1 :=
    List.forall_mem_cons.2 ⟨Nat.le_refl _, (List.pairwise_cons.1 hrest).1⟩
  have hlater :
      (a :: rest).any (fun b => b.1 < a.1 && ProcessName.key b.2 == ProcessName.key a.2) =
      false := by
    simp only [List.any_eq_false, Bool.and_eq_true, decide_eq_true_eq, not_and]
    exact fun b hb hlt => absurd hlt (Nat.not_lt.2 (hge b hb))
  rw [overtaken, List.any_append, hlater, Bool.or_false, List.any_reverse, Bool.eq_iff_iff]
  simp only [List.any_eq_true, conflicts, Bool.and_eq_true, bne_iff_ne,
    beq_iff_eq, decide_eq_true_eq]
  refine exists_congr fun b => and_congr_right fun hb => ?_
  have := hle b hb
  exact and_congr (by omega) eq_comm

/-- Going on from what was seen before, the first conflict is the first association that is
overtaken. -/
theorem firstConflict_eq_find? {before rest : List (Nat × String)}
    (h : (before.reverse ++ rest).Pairwise (·.1 ≤ ·.1)) :
    firstConflict before rest = (rest.find? (overtaken (before.reverse ++ rest))).map (·.2) := by
  induction rest generalizing before with
  | nil => rfl
  | cons a rest ih =>
    have hsame : (a :: before).reverse ++ rest = before.reverse ++ a :: rest := by simp
    rw [firstConflict, conflicts_before_eq h, ih (by rwa [hsame]), hsame, List.find?_cons]
    cases overtaken (before.reverse ++ a :: rest) a <;> rfl

theorem overtaken_iff_claimed (c : Config) (a : Nat × String) :
    overtaken c.associations a = true ↔ c.Claimed a := by
  simp only [overtaken, List.any_eq_true, Bool.and_eq_true, decide_eq_true_eq, beq_iff_eq, Claimed]
  constructor
  · rintro ⟨⟨j, p⟩, hb, hlt, hkey⟩
    obtain ⟨s, hs, hp⟩ := mem_associations.1 hb
    exact ⟨j, s, hs, hlt, p, hp, hkey⟩
  · rintro ⟨j, s, hs, hlt, p, hp, hkey⟩
    exact ⟨(j, p), mem_associations.2 ⟨s, hs, hp⟩, hlt, hkey⟩

theorem associationFault_eq_some_iff {c : Config} {fault : ConfigFault} :
    c.associationFault = some fault ↔
      ∃ a : Nat × String, First c.Claimed c.associations a ∧
        .conflictingAssociation a.2 = fault := by
  have hfind : firstConflict [] c.associations =
      (c.associations.find? (overtaken c.associations)).map (·.2) :=
    @firstConflict_eq_find? [] _ c.associations_pairwise
  rw [associationFault, hfind, Option.map_map, Option.map_eq_some_iff]
  simp only [first_iff_find? c.overtaken_iff_claimed]
  rfl

def conflictByOwner (owners : List (String × Nat)) : List (Nat × String) → Option String
  | [] => none
  | (i, p) :: rest =>
    match owners.lookup (ProcessName.key p) with
    | some j => if j = i then conflictByOwner ((ProcessName.key p, i) :: owners) rest else some p
    | none => conflictByOwner ((ProcessName.key p, i) :: owners) rest

/-- The table has the proxies of some associations, which then are not in conflict. -/
def Owns (owners : List (String × Nat)) (as : List (Nat × String)) : Prop :=
  ∀ k j, owners.lookup k = some j ↔ ∃ a ∈ as, a.1 = j ∧ ProcessName.key a.2 = k

section
variable {owners : List (String × Nat)} {as : List (Nat × String)} (h : Owns owners as)
include h

theorem any_conflicts_iff (i : Nat) (p : String) :
    as.any (conflicts (i, p)) = true ↔
      ∃ j, owners.lookup (ProcessName.key p) = some j ∧ j ≠ i := by
  simp only [h _ _, List.any_eq_true, conflicts, Bool.and_eq_true, bne_iff_ne, beq_iff_eq]
  constructor
  · rintro ⟨a, ha, hne, hkey⟩
    exact ⟨a.1, ⟨a, ha, rfl, hkey.symm⟩, hne.symm⟩
  · rintro ⟨j, ⟨a, ha, rfl, hkey⟩, hne⟩
    exact ⟨a, ha, hne.symm, hkey.symm⟩

theorem Owns.cons {i : Nat} {p : String} (hnone : as.any (conflicts (i, p)) = false) :
    Owns ((ProcessName.key p, i) :: owners) ((i, p) :: as) := by
  intro k j
  rw [List.lookup_cons]
  by_cases hk : k = ProcessName.key p
  · have hown : ∀ a ∈ as, ProcessName.key a.2 = ProcessName.key p → a.1 = i := by
      intro a ha hkey
      have hfree := List.any_eq_false.1 hnone a ha
      rw [Bool.not_eq_true, conflicts_eq_false_iff] at hfree
      exact (hfree hkey.symm).symm
    subst hk
    simp only [beq_self_eq_true, Option.some.injEq]
    constructor
    · intro hj
      exact ⟨(i, p), List.mem_cons_self, hj, rfl⟩
    · rintro ⟨a, ha, rfl, hkey⟩
      rcases List.mem_cons.1 ha with rfl | ha
      · rfl
      · exact (hown a ha hkey).symm
  · have hother : (k == ProcessName.key p) = false := beq_eq_false_iff_ne.2 hk
    simp only [hother, h k j, List.exists_mem_cons_iff, Ne.symm hk, and_false, false_or]

end

theorem conflictByOwner_eq {owners : List (String × Nat)} {before : List (Nat × String)}
    (h : Owns owners before) (rest : List (Nat × String)) :
    conflictByOwner owners rest = firstConflict before rest := by
  induction rest generalizing owners before with
  | nil => rfl
  | cons a rest ih =>
    obtain ⟨i, p⟩ := a
    have hiff := any_conflicts_iff h i p
    rw [firstConflict, conflictByOwner]
    cases hc : before.any (conflicts (i, p)) with
    | true =>
      obtain ⟨j, hj, hne⟩ := hiff.1 hc
      simp [hj, hne]
    | false =>
      have hfree : ∀ j, owners.lookup (ProcessName.key p) = some j → j = i := by
        simpa [hc] using hiff
      have hrest := ih (h.cons hc)
      cases hj : owners.lookup (ProcessName.key p) with
      | none => simpa using hrest
      | some j => simpa [hfree j hj] using hrest

/-- No process, in any spelling, is listed by two proxies. -/
def Exclusive (c : Config) : Prop :=
  ∀ (i j : Nat) (s t : ProxySettings), c.proxies[i]? = some s →
    c.proxies[j]? = some t → i ≠ j →
    ∀ p ∈ s.processes, ∀ q ∈ t.processes, ProcessName.key p ≠ ProcessName.key q

theorem exclusive_iff (c : Config) :
    c.Exclusive ↔ ∀ a ∈ c.associations, ∀ b ∈ c.associations,
      ProcessName.key a.2 = ProcessName.key b.2 → a.1 = b.1 := by
  constructor
  · rintro h ⟨i, p⟩ ha ⟨j, q⟩ hb hkey
    obtain ⟨s, hs, hp⟩ := mem_associations.1 ha
    obtain ⟨t, ht, hq⟩ := mem_associations.1 hb
    by_contra hne
    exact h i j s t hs ht hne p hp q hq hkey
  · intro h i j s t hs ht hne p hp q hq hkey
    exact hne (h (i, p) (mem_associations.2 ⟨s, hs, hp⟩) (j, q)
      (mem_associations.2 ⟨t, ht, hq⟩) hkey)

theorem fault_eq_some_iff (c : Config) (fault : ConfigFault) :
    c.fault = some fault ↔ c.FirstFault fault := by
  simp only [Config.fault, Option.or_eq_some_iff, limitFault_eq_none_iff, limitFault_eq_some_iff,
    endpointFault_eq_none_iff, endpointFault_eq_some_iff, rangeFault_eq_none_iff,
    rangeFault_eq_some_iff, associationFault_eq_some_iff]
  constructor
  · rintro (⟨hzero, rfl⟩ |
      ⟨hlimit, ⟨s, hs, rfl⟩ | ⟨hends, ⟨x, hx, rfl⟩ | ⟨hranges, a, ha, rfl⟩⟩⟩)
    · exact .limit hzero
    · exact .endpoint hlimit hs
    · exact .range hlimit hends hx
    · exact .association hlimit hends hranges ha
  · intro h
    cases h with
    | limit hzero => exact .inl ⟨hzero, rfl⟩
    | endpoint hlimit hs => exact .inr ⟨hlimit, .inl ⟨_, hs, rfl⟩⟩
    | range hlimit hends hx => exact .inr ⟨hlimit, .inr ⟨hends, .inl ⟨_, hx, rfl⟩⟩⟩
    | association hlimit hends hranges ha =>
      exact .inr ⟨hlimit, .inr ⟨hends, .inr ⟨hranges, _, ha, rfl⟩⟩⟩

/-- A configuration is valid exactly if the limit is at least one, all endpoints and ranges can be
read, and no two proxies have a process in common. Otherwise the fault is the first of the first
check that finds one; of the associations it is the first whose process an earlier proxy has, which
a pass with one owner for each key finds. -/
theorem first_fault_reported (c : Config) :
    (c.validate = .ok () ↔ 1 ≤ c.logging.limit ∧
      (∀ s ∈ c.proxies, ∃ address, Endpoint.ofProxyText? s.endpoint = some address) ∧
      (∀ r ∈ c.rules, ∀ text ∈ r.allowed ++ r.denied, ∃ n,
        Network.ofRangeText? text = some n) ∧ c.Exclusive) ∧
    (∀ fault, c.validate = .error fault ↔ c.FirstFault fault) ∧
    firstConflict [] c.associations = conflictByOwner [] c.associations := by
  refine ⟨?_, fun fault => ?_, ?_⟩
  · have hlimit : 1 ≤ c.logging.limit ↔ c.logging.limit ≠ 0 := by
      rw [UInt64.le_iff_toNat_le, Ne, ← UInt64.toNat_inj]
      exact Nat.one_le_iff_ne_zero
    rw [validate_eq_ok_iff, hlimit, exclusive_iff]
    constructor
    · intro h
      exact ⟨h.limit, h.endpoints, h.ranges, h.owners⟩
    · intro h
      exact ⟨h.1, h.2.1, h.2.2.1, h.2.2.2⟩
  · rw [← fault_eq_some_iff, validate]
    cases c.fault with
    | none => simp
    | some found => simp
  · exact (conflictByOwner_eq (by simp [Owns]) _).symm

end Config
end SocksGateway
