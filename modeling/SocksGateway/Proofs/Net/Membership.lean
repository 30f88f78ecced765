import SocksGateway.Proofs.Net.Arrivals
import SocksGateway.Proofs.Net.LeadingBits

namespace SocksGateway

namespace Block
variable {w : Nat}

/-- Behind the leading bits there are only zeros. -/
def HostFree (b : Block w) : Prop := ∀ i, b.length ≤ i → b.base.getMsbD i = false

theorem getMsbD_truncate (b : Block w) (i : Nat) :
    b.truncate.base.getMsbD i = (decide (i < b.length) && b.base.getMsbD i) := by
  have hle := b.length_le
  have hin : i + b.hostBits < w ↔ i < b.length := by unfold hostBits; omega
  have hout : ¬ i + b.hostBits < b.hostBits := by omega
  simp [truncate, BitVec.getMsbD_shiftLeft, BitVec.getMsbD_ushiftRight, hin, hout]

theorem truncate_eq_self_iff (b : Block w) : b.truncate = b ↔ b.HostFree := by
  constructor
  · intro h i hi
    rw [← h, getMsbD_truncate, decide_eq_false (Nat.not_lt.2 hi), Bool.false_and]
  · intro h
    refine ext (BitVec.eq_of_getMsbD_eq fun i _ => ?_) rfl
    rw [getMsbD_truncate]
    by_cases hi : i < b.length
    · simp [hi]
    · simp [h i (Nat.not_lt.1 hi)]

end Block

inductive Network.HostFree : Network → Prop
  | v4 {b : Block 32} (h : b.HostFree) : HostFree (.v4 b)
  | v6 {b : Block 128} (h : b.HostFree) : HostFree (.v6 b)

theorem Network.hostFree_truncate (n : Network) : n.truncate.HostFree := by
  cases n with
  | v4 b => exact .v4 (b.truncate.truncate_eq_self_iff.1 b.truncate_truncate)
  | v6 b => exact .v6 (b.truncate.truncate_eq_self_iff.1 b.truncate_truncate)

theorem SetCall.Holds.hostFree {calls : List SetCall} {m : Network} (h : Holds calls m) :
    m.HostFree := by
  obtain ⟨n, hn⟩ := h
  have hmem := List.mem_of_getLast? hn
  have habout : n.truncate = m := of_decide_eq_true (List.mem_filter.1 hmem).2
  exact habout ▸ n.hostFree_truncate

namespace NetworkSet

/-- Whether a call changed the set: an insertion looks for the network first, an erasure counts the
networks before and after. -/
def answer (s : NetworkSet) : SetCall → Bool
  | .insert n => !s.has n
  | .erase n => (s.erase n).size != s.size

theorem has_iff (s : NetworkSet) (n : Network) : s.has n = true ↔ n.truncate ∈ s.ranges := by
  simp [has]

theorem answer_insert_iff (s : NetworkSet) (n : Network) :
    s.answer (.insert n) = true ↔ n.truncate ∉ s.ranges := by
  rw [answer, Bool.not_eq_true', ← s.has_iff, Bool.not_eq_true]

theorem answer_erase_iff (s : NetworkSet) (n : Network) :
    s.answer (.erase n) = true ↔ n.truncate ∈ s.ranges := by
  have hsame : (s.erase n).size = s.size ↔ ∀ m ∈ s.ranges, m ≠ n.truncate := by
    simp [size, erase, List.length_filter_eq_length_iff]
  rw [answer, bne_iff_ne, ne_eq, hsame]
  simp

theorem ofList_eq_after (ns : List Network) : ofList ns = after {} (ns.map .insert) := by
  rw [after, List.foldl_map]
  rfl

theorem after_append (s : NetworkSet) (as bs : List SetCall) :
    s.after (as ++ bs) = (s.after as).after bs :=
  List.foldl_append

theorem contains_size_congr {calls calls' : List SetCall}
    (h : ∀ m, SetCall.Holds calls m ↔ SetCall.Holds calls' m) :
    (∀ a, (after {} calls).contains a = (after {} calls').contains a) ∧
      (after {} calls).size = (after {} calls').size := by
  have hperm := (fits_after calls).perm (fits_after calls') h
  exact ⟨contains_congr fun m => hperm.mem_iff, hperm.length_eq⟩

/-- The networks of a set that was collected from a list and then changed: each without host bits,
each once, those whose last call inserted them, in the order in which they came in. A call answers
whether the network was absent or there, and moves no other network. Which addresses are contained,
and how many networks there are, is the same for any two histories that leave the same networks. -/
theorem networks_of_history (ns : List Network) (calls : List SetCall) :
    let s := (ofList ns).after calls
    let history := ns.map .insert ++ calls
    (∀ m ∈ s.ranges, m.HostFree) ∧ s.ranges.Nodup ∧
    (∀ m, m ∈ s.ranges ↔ SetCall.Holds history m) ∧
    s.ranges.Pairwise (SetCall.Precedes history) ∧
    (∀ n, (s.answer (.insert n) = true ↔ n.truncate ∉ s.ranges) ∧
      s.ranges <+: (s.perform (.insert n)).ranges) ∧
    (∀ n, (s.answer (.erase n) = true ↔ n.truncate ∈ s.ranges) ∧
      (s.perform (.erase n)).ranges = s.ranges.erase n.truncate) ∧
    (∀ a, s.contains a = true ↔ ∃ m ∈ s.ranges, m.Covers a) ∧
    ∀ ns' calls', (∀ m, SetCall.Holds history m ↔
      SetCall.Holds (ns'.map .insert ++ calls') m) →
      (∀ a, s.contains a = ((ofList ns').after calls').contains a) ∧
        s.size = ((ofList ns').after calls').size := by
  intro s history
  have hbuilt : ∀ ns calls, (ofList ns).after calls = after {} (ns.map .insert ++ calls) :=
    fun ns calls => by
    rw [ofList_eq_after, after_append]
  have hfits : Fits history s := (fits_iff history s).2 (hbuilt ns calls)
  refine ⟨fun m hm => ((hfits.mem_iff m).1 hm).hostFree, hfits.nodup,
    hfits.mem_iff, hfits.ordered,
    fun n => ⟨s.answer_insert_iff n, ?_⟩, fun n =>
      ⟨s.answer_erase_iff n, ?_⟩, s.contains_iff_covers,
    fun ns' calls' h => ?_⟩
  · rw [perform, ranges_insert]
    split
    · exact List.prefix_rfl
    · exact List.prefix_append _ _
  · exact (hfits.nodup.erase_eq_filter n.truncate).symm
  · have hs : s = after {} history := hbuilt ns calls
    rw [hs, hbuilt ns' calls']
    exact contains_size_congr h

theorem networks_of_history_reordered :
    let ten : Network := .v4 ⟨0x0a010203#32, 8, by decide⟩
    let all : Network := .v6 ⟨0#128, 0, by decide⟩
    let one : Network := .v4 ⟨0x01020304#32, 32, by decide⟩
    let s := (ofList [ten, all]).after []
    let t := (ofList []).after [.insert all, .insert one, .insert ten.truncate, .erase one]
    s.ranges = [ten.truncate, all] ∧ t.ranges = [all, ten.truncate] ∧
      (∀ a, s.contains a = t.contains a) ∧ s.size = t.size := by
  intro ten all one s t
  have hs : s.ranges = [ten.truncate, all] := by decide
  have ht : t.ranges = [all, ten.truncate] := by decide
  obtain ⟨-, -, hmem, -, -, -, -, hsame⟩ := networks_of_history [ten, all] []
  obtain ⟨-, -, hmem', -⟩ :=
    networks_of_history [] [.insert all, .insert one, .insert ten.truncate, .erase one]
  refine ⟨hs, ht, hsame [] _ fun m => ?_⟩
  refine (hmem m).symm.trans (Iff.trans ?_ (hmem' m))
  show m ∈ s.ranges ↔ m ∈ t.ranges
  rw [hs, ht]
  exact (List.Perm.swap all ten.truncate []).mem_iff

end NetworkSet
end SocksGateway
