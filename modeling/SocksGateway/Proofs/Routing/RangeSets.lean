import SocksGateway.Proofs.Routing.InForce

namespace SocksGateway

namespace NetworkSet

theorem has_of_text {range : String} {n : Network} (h : Network.ofRangeText? range = some n)
    (s : NetworkSet) :
    s.has n = true ↔ n ∈ s.ranges := by
  rw [has, Network.truncate_of_ofRangeText? h, List.contains_iff_mem]

theorem insert_eq_self_iff (s : NetworkSet) (n : Network) :
    s.insert n = s ↔ n.truncate ∈ s.ranges := by
  constructor
  · intro h
    rw [← h]
    exact (s.mem_ranges_insert n _).2 (.inr rfl)
  · intro h
    exact if_pos (List.contains_iff_mem.2 h)

theorem erase_of_notMem {s : NetworkSet} {n : Network} (h : n.truncate ∉ s.ranges) :
    s.erase n = s := by
  have hfilter : s.ranges.filter (· != n.truncate) = s.ranges :=
    List.filter_eq_self.2 fun m hm => bne_iff_ne.2 fun he => h (he ▸ hm)
  rw [erase, hfilter]

/-- A range that is erased again leaves the others in their order. -/
theorem erase_insert {s : NetworkSet} {n : Network} (h : n.truncate ∉ s.ranges) :
    (s.insert n).erase n = s := by
  have hranges : (s.insert n).ranges = s.ranges ++ [n.truncate] := by rw [ranges_insert, if_neg h]
  have hlast : ([n.truncate].filter (· != n.truncate)) = [] := by simp
  rw [erase, hranges, List.filter_append, hlast, List.append_nil]
  exact erase_of_notMem h

end NetworkSet

namespace RangeSet

def edit (f : NetworkSet → NetworkSet) (r : Rule) : RangeSet → Rule
  | allowed => { r with allowed := f r.allowed }
  | denied => { r with denied := f r.denied }

section
variable (k : RangeSet) (f g : NetworkSet → NetworkSet) (r : Rule)

@[simp] theorem of_edit : k.of (k.edit f r) = f (k.of r) := by cases k <;> rfl

@[simp] theorem edit_edit : k.edit g (k.edit f r) = k.edit (fun s => g (f s)) r :=
  by cases k <;> rfl

@[simp] theorem proxy_edit : (k.edit f r).proxy = r.proxy := by cases k <;> rfl

theorem edit_eq_self {k : RangeSet} {f : NetworkSet → NetworkSet} {r : Rule}
    (h : f (k.of r) = k.of r) :
    k.edit f r = r := by
  cases k with
  | allowed => show { r with allowed := f (of r allowed) } = r; rw [h]; rfl
  | denied => show { r with denied := f (of r denied) } = r; rw [h]; rfl

@[simp] theorem process_add (process range : String) : (k.add process range).process = process :=
  by cases k <;> rfl

@[simp] theorem process_drop (process range : String) : (k.drop process range).process = process :=
  by cases k <;> rfl

end
end RangeSet

namespace Engine

section
variable (e : Engine) (k : RangeSet) (process : String) {range : String} {n : Network}
  (hn : Network.ofRangeText? range = some n)
include hn

theorem revised_add :
    e.revised (k.add process range) = .ok (k.edit (·.insert n) (e.policy.ruleFor process)) := by
  cases k <;> exact RuleChange.byRange_of_text hn _

theorem revised_drop :
    e.revised (k.drop process range) = if (k.of (e.policy.ruleFor process)).has n then
      .ok (k.edit (·.erase n) (e.policy.ruleFor process))
        else .error (.rangeNotFound n.toText process) := by
  cases k <;> exact RuleChange.byRange_of_text hn _

theorem inForce_iff_has :
    e.InForce k process n ↔ (k.of (e.policy.ruleFor process)).has n = true :=
  (NetworkSet.has_of_text hn _).symm

theorem answer_add : (e.change (k.add process range)).1 = .ok () := by
  obtain ⟨text, hc⟩ := change_of_revised_ok (revised_add e k process hn)
  rw [hc]

theorem answer_drop_iff :
    (e.change (k.drop process range)).1 = .ok () ↔ e.InForce k process n := by
  rw [inForce_iff_has e k process hn]
  have hr := revised_drop e k process hn
  split at hr
  next h =>
    obtain ⟨text, hc⟩ := change_of_revised_ok hr
    rw [hc]
    exact iff_of_true rfl h
  next h =>
    rw [change_of_revised_error hr]
    exact iff_of_false nofun h

theorem ruleFor_add :
    (e.change (k.add process range)).2.policy.ruleFor process =
      k.edit (·.insert n) (e.policy.ruleFor process) := by
  rw [ruleFor_change (revised_add e k process hn), k.process_add, if_pos rfl]

theorem ruleFor_drop :
    (e.change (k.drop process range)).2.policy.ruleFor process =
      k.edit (·.erase n) (e.policy.ruleFor process) := by
  have hr := revised_drop e k process hn
  split at hr
  next h => rw [ruleFor_change hr, k.process_drop, if_pos rfl]
  next h =>
    have hmem : n.truncate ∉ (k.of (e.policy.ruleFor process)).ranges :=
      fun hm => h (List.contains_iff_mem.2 hm)
    rw [change_of_revised_error hr, RangeSet.edit_eq_self (NetworkSet.erase_of_notMem hmem)]

theorem inForce_add_iff (m : Network) :
    (e.change (k.add process range)).2.InForce k process m ↔ m = n ∨ e.InForce k process m := by
  rw [InForce, ruleFor_add e k process hn, k.of_edit, NetworkSet.mem_ranges_insert,
    Network.truncate_of_ofRangeText? hn, or_comm, InForce]

theorem inForce_drop_iff (m : Network) :
    (e.change (k.drop process range)).2.InForce k process m ↔
      e.InForce k process m ∧ m ≠ n := by
  rw [InForce, ruleFor_drop e k process hn, k.of_edit, NetworkSet.mem_ranges_erase,
    Network.truncate_of_ofRangeText? hn, InForce]

theorem ranges_add_eq_iff :
    k.of ((e.change (k.add process range)).2.policy.ruleFor process) =
      k.of (e.policy.ruleFor process) ↔
      e.InForce k process n := by
  rw [ruleFor_add e k process hn, k.of_edit, NetworkSet.insert_eq_self_iff,
    Network.truncate_of_ofRangeText? hn, InForce]

end
end Engine
end SocksGateway
