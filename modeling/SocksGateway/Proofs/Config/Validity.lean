import SocksGateway.Config.Validation

namespace SocksGateway.Config

/-- A limit above zero, endpoints and ranges that can be read, and for every process at most one
proxy. -/
structure Valid (c : Config) : Prop where
  limit : c.logging.limit ≠ 0
  endpoints : ∀ s ∈ c.proxies, ∃ address, Endpoint.ofProxyText? s.endpoint = some address
  ranges : ∀ r ∈ c.rules, ∀ range ∈ r.allowed ++ r.denied, ∃ n,
    Network.ofRangeText? range = some n
  owners : ∀ a ∈ c.associations, ∀ b ∈ c.associations,
    ProcessName.key a.2 = ProcessName.key b.2 → a.1 = b.1

theorem mem_associations {c : Config} {i : Nat} {p : String} :
    (i, p) ∈ c.associations ↔ ∃ s, c.proxies[i]? = some s ∧ p ∈ s.processes := by
  unfold associations
  rw [List.mem_flatMap]
  constructor
  · rintro ⟨⟨s, j⟩, hs, hp⟩
    obtain ⟨q, hq, he⟩ := List.mem_map.1 hp
    cases he
    exact ⟨s, List.mem_zipIdx_iff_getElem?.1 hs, hq⟩
  · rintro ⟨s, hs, hp⟩
    exact ⟨(s, i), List.mem_zipIdx_iff_getElem?.2 hs, List.mem_map.2 ⟨p, hp, rfl⟩⟩

theorem conflicts_eq_false_iff (a b : Nat × String) :
    conflicts a b = false ↔ (ProcessName.key a.2 = ProcessName.key b.2 → a.1 = b.1) := by
  unfold conflicts
  rw [Bool.and_eq_false_iff, bne_eq_false_iff_eq, beq_eq_false_iff_ne]
  constructor
  · rintro (h | h) hk
    · exact h
    · exact absurd hk h
  · intro h
    by_cases hk : ProcessName.key a.2 = ProcessName.key b.2
    · exact .inl (h hk)
    · exact .inr hk

theorem conflicts_comm (a b : Nat × String) : conflicts a b = conflicts b a := by
  rw [conflicts, conflicts, bne_comm, BEq.comm]

/-- No two are in conflict. -/
def Peaceful (as : List (Nat × String)) : Prop := ∀ a ∈ as, ∀ b ∈ as, conflicts a b = false

theorem peaceful_cons_iff {a : Nat × String} {as : List (Nat × String)} :
    Peaceful (a :: as) ↔ as.any (conflicts a) = false ∧ Peaceful as := by
  have hself : conflicts a a = false := (conflicts_eq_false_iff a a).2 fun _ => rfl
  rw [List.any_eq_false]
  constructor
  · intro h
    refine ⟨fun b hb => ?_, fun b hb d hd => h b (List.mem_cons_of_mem _ hb) d
      (List.mem_cons_of_mem _ hd)⟩
    rw [h a List.mem_cons_self b (List.mem_cons_of_mem _ hb)]
    exact Bool.false_ne_true
  · rintro ⟨ha, has⟩
    have hnew : ∀ b ∈ as, conflicts a b = false := fun b hb => Bool.eq_false_iff.2 (ha b hb)
    refine List.forall_mem_cons.2 ⟨List.forall_mem_cons.2 ⟨hself, hnew⟩, fun b hb => ?_⟩
    exact List.forall_mem_cons.2 ⟨(conflicts_comm b a).trans (hnew b hb), has b hb⟩

theorem peaceful_nil : Peaceful [] := fun _ h => absurd h List.not_mem_nil

theorem firstConflict_eq_none_iff {before as : List (Nat × String)} (h : Peaceful before) :
    firstConflict before as = none ↔ Peaceful (before ++ as) := by
  induction as generalizing before with
  | nil => rw [List.append_nil]; exact iff_of_true rfl h
  | cons a as ih =>
    have hsame : Peaceful (before ++ a :: as) ↔ Peaceful (a :: before ++ as) := by
      have hmem : ∀ x, x ∈ before ++ a :: as ↔ x ∈ a :: before ++ as :=
        fun x => List.perm_middle.mem_iff
      simp only [Peaceful, hmem]
    rw [hsame, firstConflict]
    cases ha : before.any (conflicts a) with
    | true =>
      refine iff_of_false nofun fun hp => ?_
      have hno : (before ++ as).any (conflicts a) = false := (peaceful_cons_iff.1 hp).1
      rw [List.any_append, ha, Bool.true_or] at hno
      cases hno
    | false => exact ih (peaceful_cons_iff.2 ⟨ha, h⟩)

theorem fault_eq_none_iff (c : Config) : c.fault = none ↔ c.Valid := by
  have hlimit : c.limitFault = none ↔ c.logging.limit ≠ 0 := by
    unfold limitFault
    split
    next h => exact iff_of_false nofun fun hn => hn h
    next h => exact iff_of_true rfl h
  have hendpoint : c.endpointFault = none ↔
      ∀ s ∈ c.proxies, ∃ address, Endpoint.ofProxyText? s.endpoint = some address := by
    rw [endpointFault, Option.map_eq_none_iff, List.find?_eq_none]
    simp [Option.ne_none_iff_exists']
  have hrange : c.rangeFault = none ↔
      ∀ r ∈ c.rules, ∀ range ∈ r.allowed ++ r.denied, ∃ n,
        Network.ofRangeText? range = some n := by
    rw [rangeFault, List.findSome?_eq_none_iff]
    simp only [ruleFault, Option.map_eq_none_iff, List.find?_eq_none]
    simp [Option.ne_none_iff_exists']
  have howners : c.associationFault = none ↔ ∀ a ∈ c.associations, ∀ b ∈ c.associations,
      ProcessName.key a.2 = ProcessName.key b.2 → a.1 = b.1 := by
    rw [associationFault, Option.map_eq_none_iff,
      firstConflict_eq_none_iff peaceful_nil, List.nil_append]
    simp only [Peaceful, conflicts_eq_false_iff]
  rw [fault, Option.or_eq_none_iff, Option.or_eq_none_iff, Option.or_eq_none_iff, hlimit,
    hendpoint, hrange, howners]
  constructor
  · rintro ⟨h₁, h₂, h₃, h₄⟩
    exact ⟨h₁, h₂, h₃, h₄⟩
  · intro h
    exact ⟨h.limit, h.endpoints, h.ranges, h.owners⟩

theorem validate_eq_ok_iff (c : Config) : c.validate = .ok () ↔ c.Valid := by
  rw [← fault_eq_none_iff, validate]
  cases c.fault with
  | none => exact iff_of_true rfl rfl
  | some fault => exact iff_of_false nofun nofun

end SocksGateway.Config
