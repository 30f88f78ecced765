import SocksGateway.Proofs.Net.Membership
import SocksGateway.Proofs.Net.WrittenAddress
import SocksGateway.Net.NetworkText

namespace SocksGateway

namespace Block
variable {w : Nat}

theorem exists_differing (a : BitVec w) {i : Nat} (hi : i < w) :
    ∃ b : BitVec w, AgreeOn i a b ∧ a.getMsbD i ≠ b.getMsbD i := by
  have hbit : ∀ j < w, (BitVec.twoPow w (w - 1 - i)).getMsbD j = decide (j = i) := fun j hj => by
    rw [BitVec.getMsbD_twoPow, decide_eq_true (show w - 1 - i < w by omega), Bool.true_and]
    exact decide_eq_decide.2 (by omega)
  refine ⟨a ^^^ BitVec.twoPow w (w - 1 - i), fun j hj => ?_, ?_⟩
  · rw [BitVec.getMsbD_xor, hbit j (Nat.lt_trans hj hi),
      decide_eq_false (Nat.ne_of_lt hj), Bool.xor_false]
  · rw [BitVec.getMsbD_xor, hbit i hi, decide_eq_true rfl, Bool.xor_true]
    exact (Bool.not_ne_self _).symm

/-- A block that lies in another has at least as many leading bits. -/
theorem length_le_of_contains {b c : Block w}
    (h : ∀ a, b.contains a = true → c.contains a = true) :
    c.length ≤ b.length := by
  refine Nat.le_of_not_lt fun hlt => ?_
  obtain ⟨x, hx, hne⟩ := exists_differing b.base (Nat.lt_of_lt_of_le hlt c.length_le)
  have hbase := (c.contains_iff_agreeOn _).1 (h _ b.contains_base) b.length hlt
  have hother := (c.contains_iff_agreeOn _).1 (h x ((b.contains_iff_agreeOn x).2 hx)) b.length hlt
  exact hne (hbase.symm.trans hother)

theorem eq_of_contains {b c : Block w} (hb : b.HostFree) (hc : c.HostFree)
    (h : ∀ a, b.contains a = true ↔ c.contains a = true) : b = c := by
  have hlength : b.length = c.length :=
    Nat.le_antisymm (length_le_of_contains fun a => (h a).2)
      (length_le_of_contains fun a => (h a).1)
  refine ext (BitVec.eq_of_getMsbD_eq fun i _ => ?_) hlength
  by_cases hi : i < c.length
  · exact ((c.contains_iff_agreeOn _).1 ((h _).1 b.contains_base) i hi).symm
  · rw [hb i (by omega), hc i (by omega)]

end Block

namespace Network
open Address Numeral

def width : Network → Nat
  | v4 _ => 32
  | v6 _ => 128

def base : Network → Address
  | v4 b => .v4 b.base
  | v6 b => .v6 b.base

def length : Network → Nat
  | v4 b => b.length
  | v6 b => b.length

theorem length_truncate (n : Network) : n.truncate.length = n.length := by cases n <;> rfl

theorem contains_base (n : Network) : n.contains n.base = true := by
  cases n with
  | v4 b => exact b.contains_base
  | v6 b => exact b.contains_base

/-- Networks without host bits are told apart by their addresses. -/
theorem eq_of_covers {n m : Network} (hn : n.HostFree) (hm : m.HostFree)
    (h : ∀ a, n.Covers a ↔ m.Covers a) :
    n = m := by
  have hc (a : Address) : n.contains a = true ↔ m.contains a = true := by
    rw [contains_iff_covers, contains_iff_covers, h]
  cases hn with
  | @v4 b hb =>
    cases hm with
    | @v4 c hc' => exact congrArg v4 (Block.eq_of_contains hb hc' fun a => hc (.v4 a))
    | @v6 c hc' => exact absurd ((hc _).1 (contains_base (v4 b))) Bool.false_ne_true
  | @v6 b hb =>
    cases hm with
    | @v4 c hc' => exact absurd ((hc _).1 (contains_base (v6 b))) Bool.false_ne_true
    | @v6 c hc' => exact congrArg v6 (Block.eq_of_contains hb hc' fun a => hc (.v6 a))

theorem truncate_eq_self {n : Network} (h : n.HostFree) : n.truncate = n := by
  cases h with
  | @v4 b h => exact congrArg v4 (b.truncate_eq_self_iff.2 h)
  | @v6 b h => exact congrArg v6 (b.truncate_eq_self_iff.2 h)

theorem readBlock_write {w : Nat} {base : Reader (BitVec w)} {b : Block w} {cs : List Char}
    (hbase : base (cs ++ '/' :: Numeral.write 10 b.length) =
      some (b.base, '/' :: Numeral.write 10 b.length))
    (digits : Nat) (hpos : 0 < digits) (hdigits : w < 10 ^ digits) :
    readBlock base digits (cs ++ '/' :: Numeral.write 10 b.length) = some (b, []) := by
  have hle := b.length_le
  have hlength :=
    read_written (r := { maxDigits := some digits, limit := w + 1 }) (show 1 < 10 by decide)
    (show 10 ≤ 16 by decide) (n := b.length)
      (by simpa [Nat.lt_succ_iff] using hle) (fun d hd => by
      obtain rfl : digits = d := Option.some.inj hd
      exact ⟨hpos, Nat.lt_of_le_of_lt hle hdigits⟩) (stops_nil 10)
  rw [List.append_nil] at hlength
  simp [readBlock, hbase, hlength, hle]

theorem ofChars?_chars (n : Network) : ofChars? n.chars = some n := by
  cases n with
  | v4 b =>
    have hslash : Stops 10 ('/' :: Numeral.write 10 b.length) := stops_cons (by decide)
    have hread := readBlock_write (readV4_write lenient b.base hslash) 2 (by decide) (by decide)
    simp [ofChars?, Reader.whole, read, Reader.orElse, chars, hread]
  | v6 b =>
    have hslash : Ends ('/' :: Numeral.write 10 b.length) := ends_cons (by decide) (by decide) _
    have hbase := readV6_write lenient (by decide) b.base hslash (by simp)
    have hread := readBlock_write hbase 3 (by decide) (by decide)
    have hblock :
        readBlock (readV4 lenient) 2 (v6Chars b.base ++ '/' :: Numeral.write 10 b.length) =
        none := by
      rw [readBlock, readV4_of_readV6 hbase]
      rfl
    simp [ofChars?, Reader.whole, read, Reader.orElse, chars, hblock, hread]

theorem visible_chars (n : Network) : Blank.Visible n.chars := by
  have hlength (k : Nat) : Blank.Visible ('/' :: Numeral.write 10 k) :=
    .cons (by decide) (.write (by decide) (by decide) k)
  cases n with
  | v4 b => exact (visible_v4Chars _).append (hlength _)
  | v6 b => exact (visible_v6Chars _).append (hlength _)

theorem ofRangeText?_toText {n : Network} (h : n.HostFree) : ofRangeText? n.toText = some n := by
  rw [ofRangeText?, toText, String.toList_ofList, n.visible_chars.trim_eq, ofChars?_chars]
  exact congrArg some (truncate_eq_self h)

theorem parts_of_readBlock {w digits : Nat} {base : Reader (BitVec w)} {cs : List Char}
    {b : Block w} (h : readBlock base digits cs = some (b, [])) :
    ∃ length, base cs = some (b.base, '/' :: length) ∧ Numeral.value 10 length = b.length := by
  obtain ⟨⟨a, behind⟩, hbase, hlength⟩ := Option.bind_eq_some_iff.1 h
  obtain ⟨length, hslash, hnumeral⟩ := Option.bind_eq_some_iff.1 hlength
  obtain ⟨⟨n, rest⟩, hread, hblock⟩ := Option.bind_eq_some_iff.1 hnumeral
  obtain ⟨ds, rfl, hvalue⟩ := Numeral.value_of_read hread
  rw [Reader.eq_cons_of_skip hslash] at hbase
  dsimp only at hblock
  split at hblock
  next =>
    obtain ⟨rfl, rfl⟩ := Prod.mk.inj (Option.some.inj hblock)
    exact ⟨_, hbase, by rw [List.append_nil, hvalue]⟩
  next => cases hblock

theorem parts_of_ofChars? {cs : List Char} {n : Network} (h : ofChars? cs = some n) :
    ∃ length, Address.read lenient cs = some (n.base, '/' :: length) ∧
      Numeral.value 10 length = n.length := by
  have hread : read cs = some (n, []) := by
    unfold ofChars? Reader.whole at h
    split at h
    next m hm => rw [hm, Option.some.inj h]
    next => cases h
  rcases Option.or_eq_some_iff.1 hread with h4 | ⟨-, h6⟩
  · obtain ⟨⟨b, rest⟩, hb, hn⟩ := Option.map_eq_some_iff.1 h4
    obtain ⟨rfl, rfl⟩ := Prod.mk.inj hn
    obtain ⟨length, hbase, hvalue⟩ := parts_of_readBlock hb
    exact ⟨length, by simp [Address.read, Reader.orElse, hbase, Network.base], hvalue⟩
  · obtain ⟨⟨b, rest⟩, hb, hn⟩ := Option.map_eq_some_iff.1 h6
    obtain ⟨rfl, rfl⟩ := Prod.mk.inj hn
    obtain ⟨length, hbase, hvalue⟩ := parts_of_readBlock hb
    have hv4 := readV4_of_readV6 hbase
    exact ⟨length, by simp [Address.read, Reader.orElse, hbase, hv4, Network.base], hvalue⟩

end Network
end SocksGateway
