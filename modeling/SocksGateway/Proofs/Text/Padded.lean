import Mathlib.Data.List.Induction
import Mathlib.Order.Monotone.Basic
import Mathlib.Tactic.Ring
import SocksGateway.Proofs.Text.Numerals

/-!
Numerals of a fixed width. Digits in front count for more than all that follow, so numerals of one
length come in the order of their values, and no two of them have the same. Main statements:
`value_lt_iff` and `pad_lt_iff`.
-/
namespace SocksGateway.Numeral

/-- Where `b` stays below what one more of `a` stands for, `a` decides and `b` comes second. -/
theorem place_lt_iff {f : Nat → Nat} (hf : Monotone f) {a a' b b' : Nat}
    (hb : f a + b < f (a + 1)) (hb' : f a' + b' < f (a' + 1)) :
    f a + b < f a' + b' ↔ a < a' ∨ a = a' ∧ b < b' := by
  rcases Nat.lt_trichotomy a a' with h | rfl | h
  · have hle : f (a + 1) ≤ f a' := hf h
    simp only [h, Nat.ne_of_lt h, true_or, iff_true]
    omega
  · simp
  · have hle : f (a' + 1) ≤ f a := hf h
    simp only [Nat.lt_asymm h, Nat.ne_of_gt h, false_and, or_false, iff_false]
    omega

def Digits (ds : List Char) : Prop := ∀ c ∈ ds, isDigit 10 c = true

theorem digits_cons {c : Char} {cs : List Char} :
    Digits (c :: cs) ↔ isDigit 10 c = true ∧ Digits cs :=
  List.forall_mem_cons

theorem digits_write (n : Nat) : Digits (write 10 n) :=
  isDigit_of_mem_write (by decide) (by decide) n

theorem digits_pad (width n : Nat) : Digits (pad width n) := by
  intro c hc
  rcases List.mem_append.1 hc with hc | hc
  · rw [List.eq_of_mem_replicate hc]
    decide
  · exact digits_write n c hc

theorem digitValue_of_isDigit {c : Char} (h : isDigit 10 c = true) :
    48 ≤ c.toNat ∧ digitValue c = c.toNat - 48 := by
  rw [isDigit, decide_eq_true_eq, digitValue] at h
  split at h
  next hc => exact ⟨hc.1, if_pos hc⟩
  next =>
    split at h
    next hc =>
      have hle : 97 ≤ c.toNat := hc.1
      omega
    next =>
      split at h
      next hc =>
        have hle : 65 ≤ c.toNat := hc.1
        omega
      next => omega

theorem digitValue_lt_iff {c d : Char} (hc : isDigit 10 c = true) (hd : isDigit 10 d = true) :
    digitValue c < digitValue d ↔ c < d := by
  obtain ⟨hc, hvc⟩ := digitValue_of_isDigit hc
  obtain ⟨hd, hvd⟩ := digitValue_of_isDigit hd
  have hlt : c < d ↔ c.toNat < d.toNat := Iff.rfl
  rw [hlt, hvc, hvd]
  omega

theorem digitValue_inj {c d : Char} (hc : isDigit 10 c = true) (hd : isDigit 10 d = true) :
    digitValue c = digitValue d ↔ c = d := by
  obtain ⟨hc, hvc⟩ := digitValue_of_isDigit hc
  obtain ⟨hd, hvd⟩ := digitValue_of_isDigit hd
  rw [← Char.toNat_inj, hvc, hvd]
  omega

theorem value_cons (c : Char) (cs : List Char) :
    value 10 (c :: cs) = digitValue c * 10 ^ cs.length + value 10 cs := by
  induction cs using List.reverseRecOn with
  | nil => simp [value]
  | append_singleton cs d ih =>
    rw [← List.cons_append, value_append, ih, value_append,
      List.length_append, List.length_singleton]
    ring

theorem value_lt {ds : List Char} (h : Digits ds) : value 10 ds < 10 ^ ds.length := by
  induction ds with
  | nil => decide
  | cons c cs ih =>
    obtain ⟨hc, hcs⟩ := digits_cons.1 h
    have hd : digitValue c + 1 ≤ 10 := of_decide_eq_true hc
    have hcs := ih hcs
    have hmul := Nat.mul_le_mul_right (10 ^ cs.length) hd
    rw [value_cons, List.length_cons, Nat.pow_succ]
    rw [Nat.add_mul] at hmul
    omega

theorem value_lt_iff {as bs : List Char} (hl : as.length = bs.length) (ha : Digits as)
    (hb : Digits bs) :
    value 10 as < value 10 bs ↔ as < bs := by
  induction as generalizing bs with
  | nil =>
    obtain rfl := List.eq_nil_of_length_eq_zero hl.symm
    simp
  | cons a as ih =>
    cases bs with
    | nil => cases hl
    | cons b bs =>
      have hl : as.length = bs.length := Nat.succ_inj.1 hl
      obtain ⟨ha, has⟩ := digits_cons.1 ha
      obtain ⟨hb, hbs⟩ := digits_cons.1 hb
      have hmono : Monotone fun d => d * 10 ^ as.length := fun _ _ h => Nat.mul_le_mul_right _ h
      have hlta := value_lt has
      have hltb := hl ▸ value_lt hbs
      rw [value_cons, value_cons, ← hl, List.cons_lt_cons_iff, ← digitValue_lt_iff ha hb,
        ← digitValue_inj ha hb, ← ih hl has hbs]
      refine place_lt_iff hmono ?_ ?_ <;> simp only [Nat.add_mul] <;> omega

theorem eq_of_value_eq {as bs : List Char} (hl : as.length = bs.length) (ha : Digits as)
    (hb : Digits bs) (h : value 10 as = value 10 bs) : as = bs := by
  have hab : ¬ as < bs := fun hlt => Nat.ne_of_lt ((value_lt_iff hl ha hb).2 hlt) h
  have hba : ¬ bs < as := fun hlt => Nat.ne_of_gt ((value_lt_iff hl.symm hb ha).2 hlt) h
  exact List.le_antisymm hba hab

theorem lt_of_length_write_le {n k : Nat} (h : (write 10 n).length ≤ k) : n < 10 ^ k := by
  have hlt := value_lt (digits_write n)
  rw [value_write (by decide) (by decide)] at hlt
  exact Nat.lt_of_lt_of_le hlt (Nat.pow_le_pow_right (by decide) h)

theorem length_write_le_iff {n k : Nat} (hk : 0 < k) : (write 10 n).length ≤ k ↔ n < 10 ^ k :=
  ⟨lt_of_length_write_le, Nat.toDigits_length 10 n k hk⟩

theorem length_pad {width n : Nat} (hw : 0 < width) (h : n < 10 ^ width) :
    (pad width n).length = width := by
  rw [pad, List.length_append, List.length_replicate,
    Nat.sub_add_cancel ((length_write_le_iff hw).2 h)]

theorem pad_ne_nil (width n : Nat) : pad width n ≠ [] :=
  List.append_ne_nil_of_right_ne_nil _ (write_ne_nil (by decide) n)

theorem value_pad (width n : Nat) : value 10 (pad width n) = n := by
  have hzeros : ∀ (k : Nat) (ds : List Char),
      value 10 (List.replicate k '0' ++ ds) = value 10 ds := by
    intro k ds
    induction k with
    | zero => rfl
    | succ k ih =>
      have hzero : digitValue '0' = 0 := rfl
      rw [List.replicate_succ, List.cons_append, value_cons, ih, hzero, Nat.zero_mul, Nat.zero_add]
  rw [pad, hzeros, value_write (by decide) (by decide)]

theorem pad_lt_iff {width m n : Nat} (hw : 0 < width) (hm : m < 10 ^ width) (hn : n < 10 ^ width) :
    pad width m < pad width n ↔ m < n := by
  have hl : (pad width m).length = (pad width n).length := by
    rw [length_pad hw hm, length_pad hw hn]
  rw [← value_lt_iff hl (digits_pad width m) (digits_pad width n), value_pad, value_pad]

/-- Digits are what is written for their value in their number. -/
theorem pad_value {ds : List Char} (hne : ds ≠ []) (h : Digits ds) :
    pad ds.length (value 10 ds) = ds := by
  have hlength := length_pad (List.length_pos_iff.2 hne) (value_lt h)
  exact eq_of_value_eq hlength (digits_pad _ _) h (value_pad _ _)

/-- Without a zero in front digits are as few as their value needs. -/
theorem write_value {ds : List Char} (hne : ds ≠ []) (h : Digits ds)
    (hz : ds.head? ≠ some '0') :
    write 10 (value 10 ds) = ds := by
  obtain ⟨c, cs, rfl⟩ := List.exists_cons_of_ne_nil hne
  obtain ⟨hc, -⟩ := digits_cons.1 h
  have hpos : 0 < digitValue c := by
    refine Nat.pos_of_ne_zero fun h0 => hz ?_
    rw [List.head?_cons,
      (digitValue_inj hc (by decide)).1 (h0.trans (by decide : 0 = digitValue '0'))]
  have hge : 10 ^ cs.length ≤ value 10 (c :: cs) := by
    have hmul := Nat.mul_le_mul_right (10 ^ cs.length) hpos
    rw [value_cons]
    omega
  have hshort : (write 10 (value 10 (c :: cs))).length ≤ (c :: cs).length :=
    (length_write_le_iff (Nat.succ_pos _)).2 (value_lt h)
  have hlong : cs.length < (write 10 (value 10 (c :: cs))).length :=
    Nat.lt_of_not_le fun hle => Nat.not_lt_of_le hge (lt_of_length_write_le hle)
  have hlength : (write 10 (value 10 (c :: cs))).length = (c :: cs).length :=
    Nat.le_antisymm hshort hlong
  exact eq_of_value_eq hlength (digits_write _) h (value_write (by decide) (by decide) _)

end SocksGateway.Numeral
