import Mathlib.Algebra.BigOperators.Intervals
import Mathlib.Data.List.GetD
import Mathlib.Order.Monotone.Basic
import SocksGateway.Calendar.DateTime

namespace SocksGateway.Calendar

theorem daysBefore_eq_sum (year : Nat) :
    ∑ y ∈ Finset.range year, yearLength y = daysBefore year :=
  Finset.sum_range_induction _ _ rfl year fun y _ => daysBefore_succ y

theorem daysBefore_mono : Monotone daysBefore := by
  refine monotone_nat_of_le_succ fun year => ?_
  rw [daysBefore_succ]
  exact Nat.le_add_right _ _

namespace Date

/-- Days from the first day of year 0: those of the years before, of the months before in the year,
and of the days before in the month. -/
def number (d : Date) : Nat :=
  (∑ y ∈ Finset.range d.year, yearLength y) +
    daysBeforeMonth (monthLengths d.year) d.month + (d.day - 1)

theorem number_eq (d : Date) : d.number = d.toDay := by rw [number, daysBefore_eq_sum, toDay]

def monthLength (d : Date) : Nat := (monthLengths d.year).getD (d.month - 1) 0

/-- One of the twelve months, and a day that the month has in that year. -/
structure Valid (d : Date) : Prop where
  month : 1 ≤ d.month ∧ d.month ≤ 12
  day : 1 ≤ d.day ∧ d.day ≤ d.monthLength

theorem valid_iff (d : Date) : d.valid = true ↔ d.Valid := by
  have hmonth : 1 ≤ d.day → d.day ≤ d.monthLength → d.month ≤ 12 := by
    intro hpos hle
    refine Nat.le_of_not_lt fun hlt => ?_
    have hnone : d.monthLength = 0 := List.getD_eq_default _ _ (Nat.le_sub_one_of_lt hlt)
    omega
  rw [valid, Bool.and_eq_true, Bool.and_eq_true, decide_eq_true_eq,
    decide_eq_true_eq, decide_eq_true_eq]
  constructor
  · rintro ⟨⟨hfirst, hpos⟩, hle⟩
    exact ⟨⟨hfirst, hmonth hpos hle⟩, hpos, hle⟩
  · intro h
    exact ⟨⟨h.month.1, h.day.1⟩, h.day.2⟩

instance (d : Date) : Decidable d.Valid := decidable_of_iff _ d.valid_iff

example : (Date.mk 2000 2 29).Valid ∧ ¬ (Date.mk 1900 2 29).Valid := by decide

theorem monthLength_le (d : Date) : d.monthLength ≤ 31 := by
  have hall : ∀ m ∈ monthLengths d.year, m ≤ 31 := by
    unfold monthLengths
    split <;> decide
  rw [monthLength, List.getD_eq_getElem?_getD]
  cases h : (monthLengths d.year)[d.month - 1]? with
  | none => exact Nat.zero_le _
  | some m => exact hall m (List.mem_of_getElem? h)

end Date

theorem monthDay_bounds (ms : List Nat) (d : Nat) (h : d < total ms) :
    1 ≤ (monthDay ms d).1 ∧ (monthDay ms d).1 ≤ ms.length ∧
      1 ≤ (monthDay ms d).2 ∧ (monthDay ms d).2 ≤ ms.getD ((monthDay ms d).1 - 1) 0 := by
  induction ms generalizing d with
  | nil => cases h
  | cons m ms ih =>
    unfold monthDay
    split
    next hm => simpa using hm
    next hm =>
      rw [total_cons] at h
      obtain ⟨hmonth, hlength, hday, hle⟩ := ih (d - m) (by omega)
      obtain ⟨k, hk⟩ : ∃ k, (monthDay ms (d - m)).1 = k + 1 :=
        ⟨_, (Nat.sub_add_cancel hmonth).symm⟩
      rw [hk, Nat.add_sub_cancel] at hle
      simp only [hk, Nat.add_sub_cancel, List.getD_cons_succ, List.length_cons]
      omega

theorem Date.valid_ofDay (day : Nat) : (ofDay day).Valid := by
  obtain ⟨hle, hlt⟩ := daysBefore_yearOf day
  rw [daysBefore_succ, ← total_monthLengths] at hlt
  have hwithin : day - daysBefore (yearOf day) < total (monthLengths (yearOf day)) := by omega
  obtain ⟨hmonth, hlength, hday⟩ := monthDay_bounds _ _ hwithin
  exact ⟨⟨hmonth, hlength⟩, hday⟩

namespace DateTime

structure Valid (d : DateTime) : Prop where
  date : d.date.Valid
  hour : d.hour < 24
  minute : d.minute < 60
  second : d.second < 60
  millisecond : d.millisecond < 1000

/-- Milliseconds from the start of 1970, before which there are negative ones. -/
def sinceEpoch (d : DateTime) : Int :=
  ((((d.date.number - (Date.mk 1970 1 1).number : Int) * 24 + d.hour) * 60 + d.minute) *
    60 + d.second) * 1000 +
    d.millisecond

def startOf (year : Nat) : DateTime := ⟨⟨year, 1, 1⟩, 0, 0, 0, 0⟩

theorem valid_ofMillis (t : Nat) : (ofMillis t).Valid where
  date := Date.valid_ofDay _
  hour := Nat.mod_lt _ (by decide)
  minute := Nat.mod_lt _ (by decide)
  second := Nat.mod_lt _ (by decide)
  millisecond := Nat.mod_lt _ (by decide)

theorem number_epoch : (Date.mk 1970 1 1).number = epoch := by
  rw [Date.number_eq]
  rfl

theorem sinceEpoch_ofMillis (t : Nat) : (ofMillis t).sinceEpoch = t := by
  have hday : (ofMillis t).date.number = t / 86400000 + epoch := by
    rw [Date.number_eq]
    exact Date.toDay_ofDay _
  rw [sinceEpoch, number_epoch, hday]
  simp only [ofMillis]
  generalize epoch = e
  omega

theorem sinceEpoch_startOf (year : Nat) :
    (startOf year).sinceEpoch = (daysBefore year - epoch : Int) * 86400000 := by
  have hday : (startOf year).date.number = daysBefore year := by
    rw [Date.number_eq]
    rfl
  rw [sinceEpoch, number_epoch, hday]
  simp only [startOf]
  omega

theorem lt_startOf_iff (t year : Nat) :
    t < (startOf year).sinceEpoch ↔ (ofMillis t).date.year < year := by
  obtain ⟨hle, hlt⟩ := daysBefore_yearOf (t / 86400000 + epoch)
  have hyear : (ofMillis t).date.year = yearOf (t / 86400000 + epoch) := rfl
  rw [sinceEpoch_startOf, hyear]
  generalize yearOf (t / 86400000 + epoch) = y at hle hlt ⊢
  constructor
  · intro h
    refine Nat.lt_of_not_le fun hyear => ?_
    have hmono := daysBefore_mono hyear
    omega
  · intro h
    have hmono : daysBefore (y + 1) ≤ daysBefore year := daysBefore_mono h
    omega

end DateTime

theorem le_lastMillis_iff (t : Nat) :
    t ≤ lastMillis ↔ t < (DateTime.startOf 262143).sinceEpoch := by
  have hend : (DateTime.startOf 262143).sinceEpoch = lastMillis + 1 := by
    rw [DateTime.sinceEpoch_startOf]
    rfl
  rw [hend]
  omega

end SocksGateway.Calendar
