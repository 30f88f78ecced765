import Mathlib.Data.List.Induction
import Mathlib.Data.List.Nodup
import SocksGateway.Net.NetworkSet

/-!
Sets of networks by their history. A network is in a set if the last call about it inserted it, and
networks stand in the order in which they came in. This tells sets apart: no two fit the same calls.
-/
namespace SocksGateway

inductive SetCall
  | insert (network : Network)
  | erase (network : Network)

namespace SetCall

def network : SetCall → Network
  | insert n => n
  | erase n => n

/-- A call is about a network under whatever base it names it. -/
def isAbout (m : Network) (c : SetCall) : Bool := c.network.truncate = m

/-- The last call about a network inserted it. -/
def Holds (calls : List SetCall) (m : Network) : Prop :=
  ∃ n, (calls.filter (isAbout m)).getLast? = some (.insert n)

/-- A network that is not held after the calls `before` is inserted next, and not erased any
more. -/
def Enters (calls : List SetCall) (m : Network) (before : List SetCall) : Prop :=
  ¬ Holds before m ∧ ∃ n after, calls = before ++ .insert n :: after ∧ n.truncate = m ∧
    ∀ k, .erase k ∈ after → k.truncate ≠ m

def Precedes (calls : List SetCall) (m m' : Network) : Prop :=
  ∃ before before', Enters calls m before ∧ Enters calls m' before' ∧
    before.length < before'.length

section
variable {calls before before' : List SetCall} {c : SetCall} {m m' n : Network}

theorem not_holds_nil (m : Network) : ¬ Holds [] m := by simp [Holds]

theorem holds_concat_insert :
    Holds (calls ++ [.insert n]) m ↔ Holds calls m ∨ m = n.truncate := by
  by_cases h : n.truncate = m
  · simp [Holds, isAbout, network, h]
  · simp [Holds, isAbout, network, h, Ne.symm h]

theorem holds_concat_erase :
    Holds (calls ++ [.erase n]) m ↔ Holds calls m ∧ m ≠ n.truncate := by
  by_cases h : n.truncate = m
  · simp [Holds, isAbout, network, h]
  · simp [Holds, isAbout, network, h, Ne.symm h]

theorem Holds.append (h : Holds calls m) (after : List SetCall)
    (hafter : ∀ k, .erase k ∈ after → k.truncate ≠ m) : Holds (calls ++ after) m := by
  induction after using List.reverseRecOn with
  | nil => rwa [List.append_nil]
  | append_singleton after c ih =>
    have hheld := ih fun k hk => hafter k (List.mem_append_left _ hk)
    rw [← List.append_assoc]
    cases c with
    | insert n => exact holds_concat_insert.2 (.inl hheld)
    | erase n => exact holds_concat_erase.2 ⟨hheld, Ne.symm (hafter n (by simp))⟩

theorem enters_concat_insert (h : ¬ Holds calls n.truncate) :
    Enters (calls ++ [.insert n]) n.truncate calls :=
  ⟨h, n, [], rfl, rfl, fun _ hk => absurd hk List.not_mem_nil⟩

theorem Enters.concat (h : Enters calls m before) (hc : ∀ k, c = .erase k → k.truncate ≠ m) :
    Enters (calls ++ [c]) m before := by
  obtain ⟨hnot, n, after, rfl, hn, hafter⟩ := h
  refine ⟨hnot, n, after ++ [c], by simp, hn, fun k hk => ?_⟩
  rcases List.mem_append.1 hk with hk | hk
  · exact hafter k hk
  · exact hc k (List.mem_singleton.1 hk).symm

theorem Enters.length_lt (h : Enters calls m before) : before.length < calls.length := by
  obtain ⟨-, n, after, rfl, -⟩ := h
  simp

/-- Between two entries of a network there would have to be a call that erases it. -/
theorem Enters.length_le (h : Enters calls m before) (h' : Enters calls m before') :
    before'.length ≤ before.length := by
  obtain ⟨-, n, after, hcalls, hn, hafter⟩ := h
  obtain ⟨hnot, n', after', hcalls', -⟩ := h'
  rw [← Nat.not_lt]
  intro hlt
  have hsplit : before ++ .insert n :: after = before' ++ .insert n' :: after' :=
    hcalls.symm.trans hcalls'
  obtain ⟨rest, rfl, hrest⟩ := (List.append_eq_append_iff.1 hsplit).resolve_right fun hx => by
    obtain ⟨rest, hrest, -⟩ := hx
    have := congrArg List.length hrest
    rw [List.length_append] at this
    omega
  cases rest with
  | nil => simp at hlt
  | cons c rest =>
    obtain ⟨rfl, rfl⟩ := List.cons.inj hrest
    have hheld : Holds (before ++ [.insert n]) m := holds_concat_insert.2 (.inr hn.symm)
    have := hheld.append rest fun k hk => hafter k (List.mem_append_left _ hk)
    exact hnot (by simpa using this)

theorem Holds.enters (h : Holds calls m) : ∃ before, Enters calls m before := by
  induction calls using List.reverseRecOn with
  | nil => exact absurd h (not_holds_nil m)
  | append_singleton calls c ih =>
    cases c with
    | insert n =>
      by_cases hm : Holds calls m
      · obtain ⟨before, hb⟩ := ih hm
        exact ⟨before, hb.concat fun _ => SetCall.noConfusion⟩
      · obtain rfl := (holds_concat_insert.1 h).resolve_left hm
        exact ⟨calls, enters_concat_insert hm⟩
    | erase n =>
      obtain ⟨hm, hne⟩ := holds_concat_erase.1 h
      obtain ⟨before, hb⟩ := ih hm
      refine ⟨before, hb.concat fun k hk => ?_⟩
      cases hk
      exact hne.symm

theorem Precedes.concat (h : Precedes calls m m')
    (hc : ∀ k, c = .erase k → k.truncate ≠ m ∧ k.truncate ≠ m') :
    Precedes (calls ++ [c]) m m' := by
  obtain ⟨before, before', hb, hb', hlt⟩ := h
  exact ⟨before, before', hb.concat fun k hk => (hc k hk).1,
    hb'.concat fun k hk => (hc k hk).2, hlt⟩

theorem precedes_concat_insert (hm : Holds calls m) (hn : ¬ Holds calls n.truncate) :
    Precedes (calls ++ [.insert n]) m n.truncate := by
  obtain ⟨before, hb⟩ := hm.enters
  exact ⟨before, calls, hb.concat fun _ => SetCall.noConfusion,
    enters_concat_insert hn, hb.length_lt⟩

theorem Precedes.asymm (h : Precedes calls m m') : ¬ Precedes calls m' m := by
  intro h'
  obtain ⟨a, b, ha, hb, hlt⟩ := h
  obtain ⟨b', a', hb', ha', hlt'⟩ := h'
  have hle := ha.length_le ha'
  have hle' := hb'.length_le hb
  omega

end
end SetCall

namespace NetworkSet

def perform (s : NetworkSet) : SetCall → NetworkSet
  | .insert n => s.insert n
  | .erase n => s.erase n

def after (s : NetworkSet) (calls : List SetCall) : NetworkSet := calls.foldl perform s

/-- A set is as its calls would have it. -/
structure Fits (calls : List SetCall) (s : NetworkSet) : Prop where
  nodup : s.ranges.Nodup
  mem_iff : ∀ m, m ∈ s.ranges ↔ SetCall.Holds calls m
  ordered : s.ranges.Pairwise (SetCall.Precedes calls)

section
variable {calls : List SetCall} {s t : NetworkSet}

theorem fits_nil : Fits [] {} :=
  ⟨List.nodup_nil, fun m => iff_of_false List.not_mem_nil (SetCall.not_holds_nil m), .nil⟩

theorem Fits.insert (h : Fits calls s) (n : Network) :
    Fits (calls ++ [.insert n]) (s.insert n) := by
  have hmem : ∀ m, m ∈ (s.insert n).ranges ↔
      SetCall.Holds (calls ++ [.insert n]) m := fun m => by
    rw [mem_ranges_insert, SetCall.holds_concat_insert, h.mem_iff]
  have hkeep : s.ranges.Pairwise (SetCall.Precedes (calls ++ [.insert n])) :=
    h.ordered.imp fun hp => hp.concat fun _ => SetCall.noConfusion
  by_cases hn : n.truncate ∈ s.ranges
  · have hs : (s.insert n).ranges = s.ranges := by rw [ranges_insert, if_pos hn]
    exact ⟨hs ▸ h.nodup, hmem, hs ▸ hkeep⟩
  · have hs : (s.insert n).ranges = s.ranges ++ [n.truncate] := by rw [ranges_insert, if_neg hn]
    refine ⟨?_, hmem, ?_⟩
    · rw [hs, ← List.concat_eq_append, List.nodup_concat]
      exact ⟨hn, h.nodup⟩
    · rw [hs, List.pairwise_append]
      refine ⟨hkeep, List.pairwise_singleton _ _, fun m hm m' hm' => ?_⟩
      rw [List.mem_singleton.1 hm']
      exact SetCall.precedes_concat_insert ((h.mem_iff m).1 hm) ((h.mem_iff _).not.1 hn)

theorem Fits.erase (h : Fits calls s) (n : Network) : Fits (calls ++ [.erase n]) (s.erase n) := by
  refine ⟨h.nodup.filter _, fun m => ?_, ?_⟩
  · rw [mem_ranges_erase, SetCall.holds_concat_erase, h.mem_iff]
  · refine (h.ordered.filter _).imp_of_mem fun hm hm' hp => hp.concat fun k hk => ?_
    cases hk
    exact ⟨((s.mem_ranges_erase n _).1 hm).2.symm, ((s.mem_ranges_erase n _).1 hm').2.symm⟩

theorem fits_after (calls : List SetCall) : Fits calls (after {} calls) := by
  induction calls using List.reverseRecOn with
  | nil => exact fits_nil
  | append_singleton calls c ih =>
    rw [after, List.foldl_append]
    cases c with
    | insert n => exact ih.insert n
    | erase n => exact ih.erase n

theorem Fits.perm {calls' : List SetCall} (hs : Fits calls s) (ht : Fits calls' t)
    (h : ∀ m, SetCall.Holds calls m ↔ SetCall.Holds calls' m) : s.ranges.Perm t.ranges := by
  refine (List.perm_ext_iff_of_nodup hs.nodup ht.nodup).2 fun m => ?_
  rw [hs.mem_iff, ht.mem_iff, h]

theorem Fits.unique (hs : Fits calls s) (ht : Fits calls t) : s = t := by
  have hranges : s.ranges = t.ranges :=
    (hs.perm ht fun _ => Iff.rfl).eq_of_pairwise
      (fun _ _ _ _ h h' => absurd h' h.asymm) hs.ordered ht.ordered
  cases s
  cases t
  cases hranges
  rfl

theorem fits_iff (calls : List SetCall) (s : NetworkSet) : Fits calls s ↔ s = after {} calls := by
  constructor
  · intro h
    exact h.unique (fits_after calls)
  · rintro rfl
    exact fits_after calls

end
end NetworkSet
end SocksGateway
