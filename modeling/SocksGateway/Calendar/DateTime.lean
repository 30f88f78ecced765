import SocksGateway.Text.Numeral

/-!
Dates and times of day in the proleptic Gregorian calendar, counted in milliseconds from the start
of 1970, and their text. Main statement: `DateTime.toMillis_ofMillis`, a date and time denotes the
count it was made from.
-/
namespace SocksGateway.Calendar

def isLeap (year : Nat) : Bool := year % 4 == 0 && (year % 100 != 0 || year % 400 == 0)

def yearLength (year : Nat) : Nat := if isLeap year then 366 else 365

def monthLengths (year : Nat) : List Nat :=
  [31, if isLeap year then 29 else 28, 31, 30, 31, 30, 31, 31, 30, 31, 30, 31]

/-- Days from the first day of year 0 to the first day of `year`. -/
def daysBefore (year : Nat) : Nat :=
  365 * year + (year + 3) / 4 - (year + 99) / 100 + (year + 399) / 400

/-- The year of a day counted from the first day of year 0: the average length of a year gives it up
to one. -/
def yearOf (day : Nat) : Nat :=
  let y := 400 * day / 146097
  if day < daysBefore y then y - 1 else if daysBefore (y + 1) ≤ day then y + 1 else y

/-- The month and the day in it, both from one, of a day counted from zero within the months
given. -/
def monthDay : List Nat → Nat → Nat × Nat
  | [], d => (1, d + 1)
  | m :: ms, d =>
    if d < m then (1, d + 1) else ((monthDay ms (d - m)).1 + 1, (monthDay ms (d - m)).2)

def total (lengths : List Nat) : Nat := lengths.foldr (· + ·) 0

def daysBeforeMonth (months : List Nat) (month : Nat) : Nat := total (months.take (month - 1))

/-- Days from the first day of year 0 to the first day of 1970. -/
def epoch : Nat := 719528

structure Date where
  year : Nat
  month : Nat
  day : Nat
deriving DecidableEq

namespace Date

def ofDay (day : Nat) : Date :=
  let year := yearOf day
  let date := monthDay (monthLengths year) (day - daysBefore year)
  ⟨year, date.1, date.2⟩

def toDay (d : Date) : Nat :=
  daysBefore d.year + daysBeforeMonth (monthLengths d.year) d.month + (d.day - 1)

def valid (d : Date) : Bool :=
  1 ≤ d.month && 1 ≤ d.day && d.day ≤ (monthLengths d.year).getD (d.month - 1) 0

end Date

structure DateTime where
  date : Date
  hour : Nat
  minute : Nat
  second : Nat
  millisecond : Nat
deriving DecidableEq

namespace DateTime

def ofMillis (t : Nat) : DateTime :=
  ⟨Date.ofDay (t / 86400000 + epoch), t / 3600000 % 24, t / 60000 % 60, t / 1000 % 60, t % 1000⟩

def toMillis (d : DateTime) : Nat :=
  ((((d.date.toDay - epoch) * 24 + d.hour) * 60 + d.minute) * 60 + d.second) * 1000 + d.millisecond

/-- Four digits, or a sign and more of them. -/
def yearChars (year : Nat) : List Char :=
  if year ≤ 9999 then Numeral.pad 4 year else '+' :: Numeral.write 10 year

def chars (d : DateTime) : List Char :=
  yearChars d.date.year ++ '-' :: Numeral.pad 2 d.date.month ++ '-' :: Numeral.pad 2 d.date.day ++
    'T' :: Numeral.pad 2 d.hour ++ ':' :: Numeral.pad 2 d.minute ++ ':' :: Numeral.pad 2 d.second ++
    '.' :: Numeral.pad 3 d.millisecond ++ ['Z']

end DateTime

/-- The last millisecond that has a text: the end of year 262142. -/
def lastMillis : Nat := 8210266876799999

/-- Counts beyond the last one have the empty text. -/
def timeChars (t : Nat) : List Char := if t ≤ lastMillis then (DateTime.ofMillis t).chars else []

theorem daysBefore_succ (year : Nat) :
    daysBefore (year + 1) = daysBefore year + yearLength year := by
  have h4 : (year + 1 + 3) / 4 = (year + 3) / 4 + if year % 4 = 0 then 1 else 0 := by
    split <;> omega
  have h100 : (year + 1 + 99) / 100 = (year + 99) / 100 + if year % 100 = 0 then 1 else 0 := by
    split <;> omega
  have h400 : (year + 1 + 399) / 400 = (year + 399) / 400 + if year % 400 = 0 then 1 else 0 := by
    split <;> omega
  have hle : (year + 99) / 100 ≤ (year + 3) / 4 := by omega
  have hl : yearLength year + (if year % 100 = 0 then 1 else 0) =
      365 + (if year % 4 = 0 then 1 else 0) + (if year % 400 = 0 then 1 else 0) := by
    unfold yearLength isLeap
    by_cases a4 : year % 4 = 0
    · by_cases a400 : year % 400 = 0
      · simp [a4, a400, show year % 100 = 0 by omega]
      · by_cases a100 : year % 100 = 0 <;> simp [a4, a400, a100]
    · simp [a4, show year % 100 ≠ 0 by omega, show year % 400 ≠ 0 by omega]
  simp only [daysBefore, h4, h100, h400]
  generalize (year + 3) / 4 = p at *
  generalize (year + 99) / 100 = q at *
  omega

theorem daysBefore_yearOf (day : Nat) :
    daysBefore (yearOf day) ≤ day ∧ day < daysBefore (yearOf day + 1) := by
  have h1 : 146097 * (400 * day / 146097) ≤ 400 * day := Nat.mul_div_le _ _
  have h2 : 400 * day < 146097 * (400 * day / 146097) + 146097 := by omega
  simp only [yearOf]
  generalize 400 * day / 146097 = y at *
  split
  next h =>
    cases y with
    | zero => simp [daysBefore] at h
    | succ y =>
      simp only [Nat.add_sub_cancel]
      refine ⟨?_, h⟩
      simp only [daysBefore] at h ⊢
      omega
  next h =>
    split
    next h' =>
      refine ⟨h', ?_⟩
      simp only [daysBefore] at h h' ⊢
      omega
    next h' => exact ⟨by omega, by omega⟩

@[simp] theorem total_cons (m : Nat) (ms : List Nat) : total (m :: ms) = m + total ms := rfl

theorem total_monthDay (ms : List Nat) (d : Nat) (h : d < total ms) :
    total (ms.take ((monthDay ms d).1 - 1)) + ((monthDay ms d).2 - 1) = d ∧
      1 ≤ (monthDay ms d).1 := by
  induction ms generalizing d with
  | nil => simp [total] at h
  | cons m ms ih =>
    unfold monthDay
    split
    · simp [total]
    next hm =>
      simp only [total_cons] at h
      obtain ⟨h1, h2⟩ := ih (d - m) (by omega)
      refine ⟨?_, by simp⟩
      obtain ⟨k, hk⟩ : ∃ k, (monthDay ms (d - m)).1 = k + 1 :=
        ⟨_, (Nat.sub_add_cancel h2).symm⟩
      simp only [hk, Nat.add_sub_cancel, List.take_succ_cons, total_cons] at h1 ⊢
      omega

theorem total_monthLengths (year : Nat) : total (monthLengths year) = yearLength year := by
  unfold monthLengths yearLength; split <;> rfl

namespace Date

theorem toDay_ofDay (day : Nat) : (ofDay day).toDay = day := by
  obtain ⟨h1, h2⟩ := daysBefore_yearOf day
  rw [daysBefore_succ, ← total_monthLengths] at h2
  have h3 :=
    (total_monthDay (monthLengths (yearOf day)) (day - daysBefore (yearOf day)) (by omega)).1
  simp only [toDay, ofDay, daysBeforeMonth]
  omega

end Date
namespace DateTime

theorem toMillis_ofMillis (t : Nat) : (ofMillis t).toMillis = t := by
  simp only [toMillis, ofMillis, Date.toDay_ofDay]
  generalize epoch = e
  omega

end DateTime
end SocksGateway.Calendar
