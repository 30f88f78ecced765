import SocksGateway.Proofs.Calendar.TimeText

/-!
The order of times. A date and time is a number in places of different sizes, and its text has these
places in a fixed width, the largest in front. So up to the end of year 9999 texts come in the order
of the moments that they stand for. Main statement: `chars_lt_iff`.
-/
namespace SocksGateway.Calendar

/-- The first difference decides, whatever follows. -/
theorem append_lt_append_iff {as bs xs ys : List Char} (hl : as.length = bs.length) :
    as ++ xs < bs ++ ys ↔ as < bs ∨ as = bs ∧ xs < ys := by
  induction as generalizing bs with
  | nil =>
    obtain rfl := List.eq_nil_of_length_eq_zero hl.symm
    simp
  | cons a as ih =>
    cases bs with
    | nil => cases hl
    | cons b bs =>
      rw [List.cons_append, List.cons_append, List.cons_lt_cons_iff, List.cons_lt_cons_iff,
        ih (Nat.succ_inj.1 hl), List.cons.injEq]
      tauto

/-- Texts of one length that come in the order of numbers. -/
structure Aligned {α : Type} (number : α → Nat) (text : α → List Char) : Prop where
  length_eq (a b : α) : (text a).length = (text b).length
  lt_iff (a b : α) : number a < number b ↔ text a < text b

namespace Aligned

variable {α : Type} {number : α → Nat} {text : α → List Char}

theorem eq_iff (h : Aligned number text) (a b : α) : number a = number b ↔ text a = text b := by
  have hnumber : number a = number b ↔
      ¬ number a < number b ∧ ¬ number b < number a := by omega
  have htext : text a = text b ↔ ¬ text a < text b ∧ ¬ text b < text a := by
    refine ⟨fun heq => ?_, fun hn => List.le_antisymm hn.2 hn.1⟩
    rw [heq]
    exact ⟨List.lt_irrefl _, List.lt_irrefl _⟩
  rw [hnumber, htext, h.lt_iff, h.lt_iff]

theorem pad {width : Nat} (hw : 0 < width) (h : ∀ a, number a < 10 ^ width) :
    Aligned number fun a => Numeral.pad width (number a) where
  length_eq a b := by rw [Numeral.length_pad hw (h a), Numeral.length_pad hw (h b)]
  lt_iff a b := (Numeral.pad_lt_iff hw (h a) (h b)).symm

theorem append (h : Aligned number text) (rest : List Char) :
    Aligned number fun a => text a ++ rest where
  length_eq a b := by rw [List.length_append, List.length_append, h.length_eq a b]
  lt_iff a b := by simp [append_lt_append_iff (h.length_eq a b), h.lt_iff]

/-- One place more. Its numbers are written from `first` on, and stay below what one more in front
stands for. -/
theorem place (h : Aligned number text) (mark : Char) {width : Nat} (hw : 0 < width)
    {f : Nat → Nat} (hf : Monotone f) (first : Nat) {x : α → Nat}
    (hx : ∀ a, first ≤ x a ∧ x a < 10 ^ width)
    (hplace : ∀ a, f (number a) + (x a - first) < f (number a + 1)) :
    Aligned (fun a => f (number a) + (x a - first)) fun a =>
      text a ++ mark :: Numeral.pad width (x a) where
  length_eq a b := by
    simp only [List.length_append, List.length_cons, h.length_eq a b,
      Numeral.length_pad hw (hx _).2]
  lt_iff a b := by
    have hsub : x a - first < x b - first ↔ x a < x b := by
      have ha := (hx a).1
      have hb := (hx b).1
      omega
    rw [Numeral.place_lt_iff hf (hplace a) (hplace b),
      append_lt_append_iff (h.length_eq a b), List.cons_lt_cons_iff,
        Numeral.pad_lt_iff hw (hx a).2 (hx b).2, h.lt_iff, h.eq_iff, hsub]
    simp

theorem unit (h : Aligned number text) (mark : Char) (width : Nat) {size : Nat} (hw : 0 < width)
    (hsize : size ≤ 10 ^ width) {x : α → Nat} (hx : ∀ a, x a < size) :
    Aligned (fun a => number a * size + x a) fun a =>
      text a ++ mark :: Numeral.pad width (x a) := by
  have hmono : Monotone (· * size) := fun _ _ hle => Nat.mul_le_mul_right size hle
  refine h.place mark hw hmono 0 (fun a => ⟨Nat.zero_le _, (hx a).trans_le hsize⟩) fun a => ?_
  rw [Nat.sub_zero, Nat.succ_mul]
  exact Nat.add_lt_add_left (hx a) _

end Aligned

theorem total_take_succ (ms : List Nat) (n : Nat) :
    total (ms.take (n + 1)) = total (ms.take n) + ms.getD n 0 := by
  induction ms generalizing n with
  | nil => simp [total]
  | cons m ms ih =>
    cases n with
    | zero => simp [total]
    | succ n => simp [ih, Nat.add_assoc]

/-- Days before a month, where the months of all years are counted from the first of year 0: how
many days a month has depends on the year. -/
def daysBeforeMonthNumber (n : Nat) : Nat :=
  daysBefore (n / 12) + daysBeforeMonth (monthLengths (n / 12)) (n % 12 + 1)

theorem daysBeforeMonthNumber_succ (n : Nat) :
    daysBeforeMonthNumber (n + 1) =
      daysBeforeMonthNumber n + (monthLengths (n / 12)).getD (n % 12) 0 := by
  simp only [daysBeforeMonthNumber, daysBeforeMonth, Nat.add_sub_cancel,
    Nat.add_assoc, ← total_take_succ]
  by_cases h : n % 12 = 11
  · have hyear : (n + 1) / 12 = n / 12 + 1 := by omega
    have hmonth : (n + 1) % 12 = 0 := by omega
    have hall : (monthLengths (n / 12)).take (11 + 1) = monthLengths (n / 12) := rfl
    rw [hyear, hmonth, h, hall, daysBefore_succ, total_monthLengths]
    rfl
  · have hyear : (n + 1) / 12 = n / 12 := by omega
    have hmonth : (n + 1) % 12 = n % 12 + 1 := by omega
    rw [hyear, hmonth]

theorem daysBeforeMonthNumber_mono : Monotone daysBeforeMonthNumber := by
  refine monotone_nat_of_le_succ fun n => ?_
  rw [daysBeforeMonthNumber_succ]
  exact Nat.le_add_right _ _

namespace Date

def monthNumber (d : Date) : Nat := d.year * 12 + (d.month - 1)

variable {d : Date} (h : d.Valid)
include h

theorem Valid.monthNumber_div :
    d.monthNumber / 12 = d.year ∧ d.monthNumber % 12 = d.month - 1 := by
  have hmonth := h.month
  unfold monthNumber
  omega

theorem Valid.number_eq : d.number = daysBeforeMonthNumber d.monthNumber + (d.day - 1) := by
  obtain ⟨hyear, hmonth⟩ := h.monthNumber_div
  rw [Date.number_eq, toDay, daysBeforeMonthNumber, hyear, hmonth, Nat.sub_add_cancel h.month.1]

theorem Valid.day_place :
    daysBeforeMonthNumber d.monthNumber + (d.day - 1) <
      daysBeforeMonthNumber (d.monthNumber + 1) := by
  obtain ⟨hyear, hmonth⟩ := h.monthNumber_div
  obtain ⟨hpos, hle⟩ := h.day
  rw [daysBeforeMonthNumber_succ, hyear, hmonth]
  exact Nat.add_lt_add_left (Nat.sub_one_lt_of_le hpos hle) _

end Date

namespace DateTime

def count (d : DateTime) : Nat :=
  (((d.date.number * 24 + d.hour) * 60 + d.minute) * 60 + d.second) * 1000 + d.millisecond

theorem sinceEpoch_eq (d : DateTime) : d.sinceEpoch = d.count - (startOf 1970).count := by
  rw [sinceEpoch, count, count]
  simp only [startOf]
  push_cast
  ring

def ShortYear (d : DateTime) : Prop := d.Valid ∧ d.date.year ≤ 9999

theorem aligned : Aligned (fun d : { d // ShortYear d } => d.1.count) fun d => d.1.chars := by
  have hvalid (d : { d // ShortYear d }) : d.1.Valid := d.2.1
  have hpad : (fun d : { d // ShortYear d } => yearChars d.1.date.year) = fun d =>
      Numeral.pad 4 d.1.date.year :=
    funext fun d => if_pos d.2.2
  have hyear : Aligned (fun d : { d // ShortYear d } => d.1.date.year) fun d =>
      yearChars d.1.date.year := by
    rw [hpad]
    exact Aligned.pad (by decide) fun d => Nat.lt_succ_of_le d.2.2
  have hmonth : Aligned (fun d : { d // ShortYear d } => d.1.date.monthNumber) fun d =>
      yearChars d.1.date.year ++ '-' :: Numeral.pad 2 d.1.date.month := by
    have hmono : Monotone (· * 12) := fun _ _ hle => Nat.mul_le_mul_right 12 hle
    refine hyear.place '-' (by decide) hmono 1 (fun d => ?_) fun d => ?_
    · exact ⟨(hvalid d).date.month.1, (hvalid d).writable.month⟩
    · have hbounds := (hvalid d).date.month
      omega
  have hnumber : (fun d : { d // ShortYear d } => d.1.date.number) =
      fun d => daysBeforeMonthNumber d.1.date.monthNumber + (d.1.date.day - 1) :=
    funext fun d => (hvalid d).date.number_eq
  have hday : Aligned (fun d : { d // ShortYear d } => d.1.date.number) fun d =>
      yearChars d.1.date.year ++ '-' :: Numeral.pad 2 d.1.date.month ++ '-' ::
        Numeral.pad 2 d.1.date.day := by
    rw [hnumber]
    refine hmonth.place '-' (by decide) daysBeforeMonthNumber_mono 1 (fun d => ?_) fun d =>
      (hvalid d).date.day_place
    exact ⟨(hvalid d).date.day.1, (hvalid d).writable.day⟩
  have hhour := hday.unit 'T' 2 (by decide) (by decide) fun d => (hvalid d).hour
  have hminute := hhour.unit ':' 2 (by decide) (by decide) fun d => (hvalid d).minute
  have hsecond := hminute.unit ':' 2 (by decide) (by decide) fun d => (hvalid d).second
  have hmillisecond := hsecond.unit '.' 3 (by decide) (by decide) fun d => (hvalid d).millisecond
  exact hmillisecond.append ['Z']

theorem chars_lt_iff {d d' : DateTime} (h : d.ShortYear) (h' : d'.ShortYear) :
    d.chars < d'.chars ↔ d.sinceEpoch < d'.sinceEpoch := by
  have hcount : d.count < d'.count ↔ d.chars < d'.chars := aligned.lt_iff ⟨d, h⟩ ⟨d', h'⟩
  rw [sinceEpoch_eq, sinceEpoch_eq, ← hcount]
  omega

end DateTime
end SocksGateway.Calendar
