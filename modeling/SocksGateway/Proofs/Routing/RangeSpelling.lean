import SocksGateway.Proofs.Net.WrittenNetwork
import SocksGateway.Proofs.Routing.RangeSets

namespace SocksGateway.Network
open Address

/-- A text of a range is read as the network without host bits that has the written address and the
written length, and that network is read again from its own text. Two texts are read alike exactly
if they have the same addresses; so a range that was added under one text is there under the other,
is not added again and can be dropped under it exactly if the two are the same range, or the other
was there itself. -/
theorem range_text_canonical {text text' : String} {n n' : Network}
    (h : ofRangeText? text = some n) (h' : ofRangeText? text' = some n') :
    n.HostFree ∧
    (∃ a length, Address.read lenient (Blank.trim text.toList) = some (a, '/' :: length) ∧
      n.Covers a ∧
      n.length = Numeral.value 10 length) ∧
    ofRangeText? n.toText = some n ∧
    (ofRangeText? text = ofRangeText? text' ↔
      n.width = n'.width ∧ ∀ a, n.Covers a ↔ n'.Covers a) ∧
    ∀ (e : Engine) (k : RangeSet) (process : String),
      let added := (e.change (k.add process text)).2
      ((added.change (k.drop process text')).1 = .ok () ↔ n' = n ∨ e.InForce k process n') ∧
      (k.of ((added.change (k.add process text')).2.policy.ruleFor process) =
        k.of (added.policy.ruleFor process) ↔
        n' = n ∨ e.InForce k process n') ∧
      ((added.change (k.drop process text')).2.InForce k process n ↔ n' ≠ n) := by
  obtain ⟨m, hm, rfl⟩ := Option.map_eq_some_iff.1 h
  have hfree := m.hostFree_truncate
  have hfree' : n'.HostFree := truncate_of_ofRangeText? h' ▸ n'.hostFree_truncate
  refine ⟨hfree, ?_, ofRangeText?_toText hfree, ?_, fun e k process => ?_⟩
  · obtain ⟨length, hread, hvalue⟩ := parts_of_ofChars? hm
    refine ⟨m.base, length, hread, ?_, m.length_truncate.trans hvalue.symm⟩
    rw [← contains_iff_covers, contains_truncate, contains_base]
  · rw [h, h', Option.some.injEq]
    constructor
    · rintro rfl
      exact ⟨rfl, fun _ => Iff.rfl⟩
    · exact fun hx => eq_of_covers hfree hfree' hx.2
  · intro added
    refine ⟨?_, ?_, ?_⟩
    · rw [Engine.answer_drop_iff added k process h', Engine.inForce_add_iff e k process h]
    · rw [Engine.ranges_add_eq_iff added k process h', Engine.inForce_add_iff e k process h]
    · rw [Engine.inForce_drop_iff added k process h', Engine.inForce_add_iff e k process h]
      simp [eq_comm]

/-- Host bits, capitals, zeros in front and blanks around, against a range with zeros left out. -/
theorem range_text_canonical_of_spellings :
    let n : Network := .v6 ⟨0x20010db8800000000000000000000000#128, 33, by decide⟩
    let text := " 2001:0DB8:8000:0:1:0:0:1/033\n"
    let text' := "2001:db8:ffff::1.2.3.4/33"
    ofRangeText? text = some n ∧ ofRangeText? text' = some n ∧
      n.toText = "2001:db8:8000::/33" ∧
      ofRangeText? n.toText = some n ∧
      ∀ (e : Engine) (k : RangeSet) (process : String),
        ((e.change (k.add process text)).2.change (k.drop process text')).1 = .ok () := by
  intro n text text'
  have hn : ofRangeText? text = some n := by decide +kernel
  have hn' : ofRangeText? text' = some n := by decide +kernel
  obtain ⟨-, -, hagain, -, hrules⟩ := range_text_canonical hn hn'
  exact ⟨hn, hn', by decide +kernel, hagain,
    fun e k process => (hrules e k process).1.2 (.inl rfl)⟩

end SocksGateway.Network
