import Mathlib.Data.Nat.Digits.Defs
import SocksGateway.Text.Blank
import SocksGateway.Text.Numeral

namespace SocksGateway

namespace Numeral

theorem digitChar_eq_zero {d : Nat} (hd : d < 16) (h : Nat.digitChar d = '0') : d = 0 := by
  rw [← digitValue_digitChar d hd, h]
  rfl

theorem head?_write_ne_zero {base n : Nat} (hb : 1 < base) (hs : base ≤ 16) (hn : 0 < n) :
    (write base n).head? ≠ some '0' := by
  induction n using Nat.strongRecOn with
  | _ n ih =>
    by_cases h : n < base
    · rw [write_of_lt h, List.head?_cons]
      intro hz
      have := digitChar_eq_zero (Nat.lt_of_lt_of_le h hs) (Option.some.inj hz)
      omega
    · have hq := ih _ (Nat.div_lt_self hn hb) (Nat.div_pos (Nat.le_of_not_lt h) (by omega))
      obtain ⟨c, cs, hc⟩ := List.exists_cons_of_ne_nil (write_ne_nil hb (n / base))
      rw [hc] at hq
      rw [write_step hb (Nat.le_of_not_lt h), hc]
      exact hq

theorem admits_write {r : Rule} (hb : 1 < r.base) (hs : r.base ≤ 16) {n : Nat} (hn : n < r.limit)
    (hd : ∀ d ∈ r.maxDigits, 0 < d ∧ n < r.base ^ d) : r.admits (write r.base n) = true := by
  have hempty : (write r.base n).isEmpty = false := List.isEmpty_eq_false_iff.2 (write_ne_nil hb n)
  have hlength : r.maxDigits.all ((write r.base n).length ≤ ·) = true := by
    rw [Option.all_eq_true]
    intro d hm
    obtain ⟨hpos, hlt⟩ := hd d hm
    exact decide_eq_true (Nat.toDigits_length _ _ _ hpos hlt)
  have hfront :
      (r.leadingZero || (write r.base n).length ≤ 1 || (write r.base n).head? != some '0') =
      true := by
    rcases Nat.eq_zero_or_pos n with rfl | hpos
    · simp [write_of_lt (show 0 < r.base by omega)]
    · simp [head?_write_ne_zero hb hs hpos]
  rw [Rule.admits, hempty, hlength, hfront, value_write hb hs]
  simpa using hn

theorem read_written {r : Rule} (hb : 1 < r.base) (hs : r.base ≤ 16) {n : Nat}
    {rest : List Char} (hn : n < r.limit) (hd : ∀ d ∈ r.maxDigits, 0 < d ∧ n < r.base ^ d)
    (hr : Stops r.base rest) :
    read r (write r.base n ++ rest) = some (n, rest) :=
  read_write hb hs (admits_write hb hs hn hd) hr

theorem stops_nil (base : Nat) : Stops base [] := nofun

theorem stops_cons {base : Nat} {c : Char} {cs : List Char} (h : isDigit base c = false) :
    Stops base (c :: cs) := by
  intro x hx
  obtain rfl : c = x := Option.some.inj hx
  exact h

theorem isDigit_mono {base base' : Nat} (hle : base ≤ base') {c : Char}
    (h : isDigit base c = true) :
    isDigit base' c = true := by
  simp only [isDigit, decide_eq_true_eq] at *
  omega

theorem Stops.mono {base base' : Nat} (hle : base ≤ base') {rest : List Char}
    (h : Stops base' rest) :
    Stops base rest := by
  intro c hc
  rw [← Bool.not_eq_true]
  intro hd
  exact absurd (isDigit_mono hle hd) (Bool.not_eq_true _ ▸ h c hc)

theorem span_of_stops {base : Nat} {rest : List Char} (h : Stops base rest) :
    rest.takeWhile (isDigit base) = [] ∧ rest.dropWhile (isDigit base) = rest :=
  @span_append base [] rest nofun h

theorem read_of_stops {r : Rule} {rest : List Char} (h : Stops r.base rest) :
    read r rest = none := by
  simp [read, (span_of_stops h).1, Rule.admits]

theorem value_of_read {r : Rule} {cs rest : List Char} {n : Nat} (h : read r cs = some (n, rest)) :
    ∃ ds, cs = ds ++ rest ∧ value r.base ds = n := by
  unfold read at h
  dsimp only at h
  split at h
  next =>
    obtain ⟨rfl, rfl⟩ := Prod.mk.inj (Option.some.inj h)
    exact ⟨_, List.takeWhile_append_dropWhile.symm, rfl⟩
  next => cases h

theorem toNat_of_isDigit {c : Char} (h : isDigit 16 c = true) :
    48 ≤ c.toNat ∧ c.toNat ≤ 102 := by
  have hle {a b : Char} (h : a ≤ b) : a.toNat ≤ b.toNat := h
  rw [isDigit, decide_eq_true_eq, digitValue] at h
  split at h
  next hc => exact ⟨hle hc.1, (hle hc.2).trans (by decide)⟩
  next =>
    split at h
    next hc => exact ⟨(hle hc.1).trans' (by decide), hle hc.2⟩
    next =>
      split at h
      next hc => exact ⟨(hle hc.1).trans' (by decide), (hle hc.2).trans (by decide)⟩
      next => omega

end Numeral

namespace Blank

theorem isBlank_of_isDigit {c : Char} (h : Numeral.isDigit 16 c = true) : isBlank c = false := by
  have hc := Numeral.toNat_of_isDigit h
  simp [isBlank, ranges, CodeRanges.has_cons, CodeRanges.has_nil]
  omega

def Visible (cs : List Char) : Prop := ∀ c ∈ cs, isBlank c = false

namespace Visible

theorem nil : Visible [] := nofun

theorem cons {c : Char} {cs : List Char} (hc : isBlank c = false) (hcs : Visible cs) :
    Visible (c :: cs) :=
  List.forall_mem_cons.2 ⟨hc, hcs⟩

theorem append {as bs : List Char} (ha : Visible as) (hb : Visible bs) : Visible (as ++ bs) :=
  List.forall_mem_append.2 ⟨ha, hb⟩

theorem write {base : Nat} (hb : 1 < base) (hs : base ≤ 16) (n : Nat) :
    Visible (Numeral.write base n) := fun c hc =>
  isBlank_of_isDigit (Numeral.isDigit_mono hs (Numeral.isDigit_of_mem_write hb hs n c hc))

theorem trim_eq {cs : List Char} (h : Visible cs) : trim cs = cs :=
  trim_of_trimmed ⟨fun c hc => h c (List.mem_of_head? hc),
    fun c hc => h c (List.mem_of_getLast? hc)⟩

end Visible

end Blank
end SocksGateway
