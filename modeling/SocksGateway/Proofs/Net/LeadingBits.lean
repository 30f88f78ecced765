import SocksGateway.Net.AddressText
import SocksGateway.Net.LocalNetworks
import SocksGateway.Net.NetworkSet

/-!
Addresses bit by bit. A network covers the addresses of its family that agree with it on its leading
bits; that is what membership by shifting comes to. The local networks are told by octets, and a
mapped address by its first ninety-six bits.
-/
namespace SocksGateway

def AgreeOn {w : Nat} (n : Nat) (a b : BitVec w) : Prop := ∀ i < n, a.getMsbD i = b.getMsbD i

theorem shift_eq_iff_agreeOn {w n : Nat} (hn : n ≤ w) (a b : BitVec w) :
    a >>> (w - n) = b >>> (w - n) ↔ AgreeOn n a b := by
  constructor
  · intro h i hi
    have hbit := congrArg (fun x => x.getLsbD (n - 1 - i)) h
    simp only [BitVec.getLsbD_ushiftRight] at hbit
    have hpos : w - n + (n - 1 - i) = w - 1 - i := by omega
    rw [hpos] at hbit
    simpa [BitVec.getMsbD_eq_getLsbD, show i < w by omega] using hbit
  · intro h
    apply BitVec.eq_of_getLsbD_eq
    intro j _
    simp only [BitVec.getLsbD_ushiftRight]
    by_cases hj : j < n
    · have hbit := h (n - 1 - j) (by omega)
      have hpos : w - 1 - (n - 1 - j) = w - n + j := by omega
      simpa [BitVec.getMsbD_eq_getLsbD, show n - 1 - j < w by omega, hpos] using hbit
    · rw [BitVec.getLsbD_of_ge a _ (by omega), BitVec.getLsbD_of_ge b _ (by omega)]

theorem Block.contains_iff_agreeOn {w : Nat} (b : Block w) (a : BitVec w) :
    b.contains a = true ↔ AgreeOn b.length b.base a := by
  rw [← shift_eq_iff_agreeOn b.length_le]
  simp [Block.contains, Block.hostBits]

/-- By families, and by the leading bits that the network's length counts. -/
inductive Network.Covers : Network → Address → Prop
  | v4 {b : Block 32} {a : BitVec 32} (h : AgreeOn b.length b.base a) : Covers (.v4 b) (.v4 a)
  | v6 {b : Block 128} {a : BitVec 128} (h : AgreeOn b.length b.base a) : Covers (.v6 b) (.v6 a)

theorem Network.contains_iff_covers (n : Network) (a : Address) :
    n.contains a = true ↔ n.Covers a := by
  constructor
  · intro h
    cases n with
    | v4 b =>
      cases a with
      | v4 a => exact .v4 ((b.contains_iff_agreeOn a).1 h)
      | v6 a => simp [contains] at h
    | v6 b =>
      cases a with
      | v4 a => simp [contains] at h
      | v6 a => exact .v6 ((b.contains_iff_agreeOn a).1 h)
  · intro h
    cases h with
    | v4 h => exact (Block.contains_iff_agreeOn _ _).2 h
    | v6 h => exact (Block.contains_iff_agreeOn _ _).2 h

theorem NetworkSet.contains_iff_covers (s : NetworkSet) (a : Address) :
    s.contains a = true ↔ ∃ n ∈ s.ranges, n.Covers a := by
  simp [NetworkSet.contains, Network.contains_iff_covers]

namespace Address

/-- The address an address counts as. A mapped one, with eighty zeros and sixteen ones in front,
counts as its last thirty-two bits; every other counts as itself. -/
inductive CountsAs : Address → Address → Prop
  | v4 (a : BitVec 32) : CountsAs (.v4 a) (.v4 a)
  | mapped (a : BitVec 32) : CountsAs (.v6 (0#80 ++ 0xffff#16 ++ a)) (.v4 a)
  | v6 {a : BitVec 128} (h : ∀ b : BitVec 32, a ≠ 0#80 ++ 0xffff#16 ++ b) :
      CountsAs (.v6 a) (.v6 a)

theorem mapped_eq_append (a : BitVec 32) : mapped a = 0#80 ++ 0xffff#16 ++ a := by
  apply BitVec.eq_of_toNat_eq
  have ha := a.isLt
  rw [toNat_mapped, BitVec.toNat_append, Nat.shiftLeft_eq, Nat.mul_comm (BitVec.toNat _),
    ← Nat.two_pow_add_eq_or_of_lt ha, Nat.mul_comm]
  rfl

theorem countsAs_canonical (a : Address) : a.CountsAs a.canonical := by
  cases a with
  | v4 a => exact .v4 a
  | v6 a =>
    cases h : unmapped? a with
    | some b =>
      obtain rfl := eq_mapped_of_unmapped? h
      rw [canonical_mapped, mapped_eq_append]
      exact .mapped b
    | none =>
      rw [show (v6 a).canonical = v6 a by simp [canonical, h]]
      refine .v6 fun b hb => ?_
      rw [hb, ← mapped_eq_append, unmapped?_mapped] at h
      cases h

def LocalOctets : List Nat → Prop
  | a :: b :: _ =>
    a = 10 ∨ (a = 172 ∧ 16 ≤ b ∧ b ≤ 31) ∨ (a = 192 ∧ b = 168) ∨
      (a = 169 ∧ b = 254) ∨
      (224 ≤ a ∧ a ≤ 239)
  | _ => False

inductive Local : Address → Prop
  | v4 {a : BitVec 32} (h : LocalOctets (octets a)) : Local (.v4 a)

end Address

theorem Block.contains_iff_toNat {w : Nat} (b : Block w) (a : BitVec w) :
    b.contains a = true ↔ b.base.toNat >>> b.hostBits = a.toNat >>> b.hostBits := by
  simp [Block.contains, ← BitVec.toNat_inj]

theorem LocalFilter.isLocal_v4_iff (a : BitVec 32) :
    isLocal (.v4 a) = true ↔ Address.LocalOctets (Address.octets a) := by
  have ha := a.isLt
  simp only [isLocal, Address.canonical_v4, ranges, List.any_cons, List.any_nil, Bool.or_false,
    Bool.or_eq_true, Block.contains_iff_toNat, Nat.shiftRight_eq_div_pow, Address.LocalOctets,
    Address.octets, Block.hostBits]
  simp only [BitVec.toNat_ofNat]
  omega

theorem LocalFilter.bypasses_canonical_iff (f : LocalFilter) (a : Address) :
    f.bypasses a.canonical = true ↔ f.enabled = true ∧ a.canonical.Local := by
  rw [bypasses, Bool.and_eq_true]
  refine and_congr_right fun _ => ?_
  cases h : a.canonical with
  | v4 b => exact (isLocal_v4_iff b).trans ⟨.v4, fun ⟨h⟩ => h⟩
  | v6 b =>
    have hc : (Address.v6 b).canonical = .v6 b := by rw [← h, Address.canonical_canonical]
    constructor
    · intro hl
      simp [isLocal, hc] at hl
    · intro hl
      cases hl

/-- The ranges are those of the texts. -/
example : LocalFilter.ranges.map (some <| Network.v4 ·) =
    ["10.0.0.0/8", "172.16.0.0/12", "192.168.0.0/16", "224.0.0.0/4", "169.254.0.0/16"].map
      Network.ofText? := by
  decide +kernel

end SocksGateway
