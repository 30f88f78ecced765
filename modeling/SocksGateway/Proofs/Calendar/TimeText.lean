import Mathlib.Data.List.TakeWhile
import SocksGateway.Proofs.Calendar.CivilTime
import SocksGateway.Proofs.Text.Padded
import SocksGateway.Text.Reader

/-!
Reading times. A time is a year, a month, a day, an hour, a minute, a second and three digits of the
second, with a letter or mark behind each, the last of which says that it is universal time. Main
statement: `ofChars?_eq_some_iff`, what is read is what is written, and nothing else.
-/
namespace SocksGateway

namespace Reader

theorem skip_eq_some_iff {c : Char} {cs rest : List Char} :
    skip c cs = some rest ↔ cs = c :: rest := by
  refine ⟨eq_cons_of_skip, ?_⟩
  rintro rfl
  exact skip_cons_self c rest

theorem exactly_eq_some_iff {n : Nat} {p : Char → Bool} {cs ds rest : List Char} :
    exactly n p cs = some (ds, rest) ↔
      ds.length = n ∧ (∀ c ∈ ds, p c = true) ∧ cs = ds ++ rest := by
  rw [exactly]
  constructor
  · intro h
    split at h
    next hds =>
      obtain ⟨rfl, rfl⟩ := Prod.mk.inj (Option.some.inj h)
      exact ⟨hds.1, List.all_eq_true.1 hds.2, (List.take_append_drop n cs).symm⟩
    next => cases h
  · rintro ⟨rfl, hp, rfl⟩
    simpa using hp

theorem of_some1 {p : Char → Bool} {cs ds rest : List Char} (h : some1 p cs = some (ds, rest)) :
    ds ≠ [] ∧ (∀ c ∈ ds, p c = true) ∧ cs = ds ++ rest := by
  rw [some1] at h
  split at h
  next => cases h
  next hne =>
    obtain ⟨rfl, rfl⟩ := Prod.mk.inj (Option.some.inj h)
    exact ⟨fun h => hne (List.isEmpty_iff.2 h), fun c hc => List.mem_takeWhile_imp hc,
      List.takeWhile_append_dropWhile.symm⟩

end Reader

namespace Calendar.DateTime

def readField (width : Nat) (ending : Char) : Reader Nat := fun cs => do
  let (ds, cs) ← Reader.exactly width (Numeral.isDigit 10) cs
  let cs ← Reader.skip ending cs
  some (Numeral.value 10 ds, cs)

def readYear : Reader Nat := fun cs =>
  match Reader.skip '+' cs with
  | none => readField 4 '-' cs
  | some cs => do
    let (ds, cs) ← Reader.some1 (Numeral.isDigit 10) cs
    let cs ← Reader.skip '-' cs
    if 4 < ds.length ∧ ds.head? ≠ some '0' then some (Numeral.value 10 ds, cs) else none

def read : Reader DateTime := fun cs => do
  let (year, cs) ← readYear cs
  let (month, cs) ← readField 2 '-' cs
  let (day, cs) ← readField 2 'T' cs
  let (hour, cs) ← readField 2 ':' cs
  let (minute, cs) ← readField 2 ':' cs
  let (second, cs) ← readField 2 '.' cs
  let (millisecond, cs) ← readField 3 'Z' cs
  some (⟨⟨year, month, day⟩, hour, minute, second, millisecond⟩, cs)

def ofChars? (cs : List Char) : Option DateTime := Reader.whole read cs

def ofText? (s : String) : Option DateTime := ofChars? s.toList

theorem readField_eq_some_iff {width n : Nat} (hw : 0 < width) {ending : Char}
    {cs rest : List Char} :
    readField width ending cs = some (n, rest) ↔
      n < 10 ^ width ∧ cs = Numeral.pad width n ++ ending :: rest := by
  rw [readField]
  constructor
  · intro h
    simp only [Option.bind_eq_bind, Option.bind_eq_some_iff, Prod.exists,
      Option.some.injEq, Prod.mk.injEq, Reader.exactly_eq_some_iff, Reader.skip_eq_some_iff] at h
    obtain ⟨ds, _, ⟨hlength, hds, rfl⟩, _, rfl, rfl, rfl⟩ := h
    have hne : ds ≠ [] := List.ne_nil_of_length_pos (hlength ▸ hw)
    rw [← hlength, Numeral.pad_value hne hds]
    exact ⟨Numeral.value_lt hds, rfl⟩
  · rintro ⟨hn, rfl⟩
    have hexactly :
        Reader.exactly width (Numeral.isDigit 10) (Numeral.pad width n ++ ending :: rest) =
        some (Numeral.pad width n, ending :: rest) :=
      Reader.exactly_eq_some_iff.2 ⟨Numeral.length_pad hw hn, Numeral.digits_pad width n, rfl⟩
    simp [hexactly, Numeral.value_pad]

theorem head?_yearChars_iff (year : Nat) (rest : List Char) :
    (yearChars year ++ rest).head? = some '+' ↔ 9999 < year := by
  rw [yearChars]
  split
  next h =>
    obtain ⟨c, cs, hc⟩ := List.exists_cons_of_ne_nil (Numeral.pad_ne_nil 4 year)
    have hdigit : Numeral.isDigit 10 c = true :=
      (Numeral.digits_cons.1 (hc ▸ Numeral.digits_pad 4 year)).1
    rw [hc, List.cons_append, List.head?_cons, Option.some.injEq]
    refine iff_of_false ?_ (Nat.not_lt_of_le h)
    rintro rfl
    cases hdigit
  next h => exact iff_of_true rfl (Nat.lt_of_not_le h)

theorem readYear_yearChars (year : Nat) (rest : List Char) :
    readYear (yearChars year ++ '-' :: rest) = some (year, rest) := by
  by_cases h : year ≤ 9999
  · have hsign : Reader.skip '+' (yearChars year ++ '-' :: rest) = none :=
      Reader.skip_of_head? fun hhead => Nat.not_lt_of_le h ((head?_yearChars_iff year _).1 hhead)
    have hfield : readField 4 '-' (yearChars year ++ '-' :: rest) = some (year, rest) :=
      (readField_eq_some_iff (by decide)).2 ⟨Nat.lt_succ_of_le h, by rw [yearChars, if_pos h]⟩
    rw [readYear, hsign]
    exact hfield
  · have hstops : Numeral.Stops 10 ('-' :: rest) := Numeral.stops_cons rfl
    have hspan := Numeral.span_append (Numeral.digits_write year) hstops
    have hdigits : Reader.some1 (Numeral.isDigit 10) (Numeral.write 10 year ++ '-' :: rest) =
        some (Numeral.write 10 year, '-' :: rest) := by
      simp [Reader.some1, hspan.1, hspan.2, Numeral.write_ne_nil]
    have hlong : 4 < (Numeral.write 10 year).length :=
      Nat.lt_of_not_le fun hle => h (Nat.le_of_lt_succ (Numeral.lt_of_length_write_le hle))
    have hzero : (Numeral.write 10 year).head? ≠ some '0' :=
      Numeral.head?_write_ne_zero (by decide) (by decide) (by omega)
    have hvalue : Numeral.value 10 (Numeral.write 10 year) = year :=
      Numeral.value_write (by decide) (by decide) year
    simp [yearChars, h, readYear, hdigits, hlong, hzero, hvalue]

theorem eq_of_readYear {cs rest : List Char} {year : Nat} (h : readYear cs = some (year, rest)) :
    cs = yearChars year ++ '-' :: rest := by
  rw [readYear] at h
  split at h
  next =>
    obtain ⟨hlt, rfl⟩ := (readField_eq_some_iff (by decide)).1 h
    rw [yearChars, if_pos (Nat.le_of_lt_succ hlt)]
  next cs hsign =>
    obtain rfl := Reader.eq_cons_of_skip hsign
    simp only [Option.bind_eq_bind, Option.bind_eq_some_iff, Prod.exists, Reader.skip_eq_some_iff,
      Option.ite_none_right_eq_some, Option.some.injEq, Prod.mk.injEq] at h
    obtain ⟨ds, _, hread, _, rfl, ⟨hlong, hzero⟩, rfl, rfl⟩ := h
    obtain ⟨hne, hds, rfl⟩ := Reader.of_some1 hread
    have hwrite := Numeral.write_value hne hds hzero
    have hlarge : ¬ Numeral.value 10 ds ≤ 9999 := by
      intro hle
      have hshort := (Numeral.length_write_le_iff (show 0 < 4 by decide)).2 (Nat.lt_succ_of_le hle)
      rw [hwrite] at hshort
      exact Nat.not_lt_of_le hshort hlong
    rw [yearChars, if_neg hlarge, hwrite, List.cons_append]

theorem readYear_eq_some_iff {cs rest : List Char} {year : Nat} :
    readYear cs = some (year, rest) ↔ cs = yearChars year ++ '-' :: rest := by
  refine ⟨eq_of_readYear, ?_⟩
  rintro rfl
  exact readYear_yearChars year rest

/-- The parts behind the year have no more digits than they are written in. -/
structure Writable (d : DateTime) : Prop where
  month : d.date.month < 10 ^ 2
  day : d.date.day < 10 ^ 2
  hour : d.hour < 10 ^ 2
  minute : d.minute < 10 ^ 2
  second : d.second < 10 ^ 2
  millisecond : d.millisecond < 10 ^ 3

theorem read_eq_some_iff {cs rest : List Char} {d : DateTime} :
    read cs = some (d, rest) ↔ d.Writable ∧ cs = d.chars ++ rest := by
  rw [read]
  simp only [Option.bind_eq_bind, Option.bind_eq_some_iff, Prod.exists,
    Option.some.injEq, Prod.mk.injEq, readYear_eq_some_iff,
      readField_eq_some_iff (show 0 < 2 by decide), readField_eq_some_iff (show 0 < 3 by decide)]
  constructor
  · rintro ⟨year, _, rfl, month, _, ⟨hmonth, rfl⟩, day, _, ⟨hday, rfl⟩, hour, _,
      ⟨hhour, rfl⟩, minute, _,
      ⟨hminute, rfl⟩, second, _, ⟨hsecond, rfl⟩, millisecond, _,
        ⟨hmillisecond, rfl⟩, rfl, rfl⟩
    exact ⟨⟨hmonth, hday, hhour, hminute, hsecond, hmillisecond⟩, by simp [chars]⟩
  · rintro ⟨h, rfl⟩
    exact ⟨_, _, by simp [chars], _, _, ⟨h.month, rfl⟩, _, _, ⟨h.day, rfl⟩, _, _,
      ⟨h.hour, rfl⟩, _, _, ⟨h.minute, rfl⟩,
      _, _, ⟨h.second, rfl⟩, _, _, ⟨h.millisecond, rfl⟩, rfl, rfl⟩

/-- No text is read as a date and time but the one that is written for it. -/
theorem ofChars?_eq_some_iff {cs : List Char} {d : DateTime} :
    ofChars? cs = some d ↔ d.Writable ∧ cs = d.chars := by
  rw [ofChars?, Reader.whole]
  constructor
  · intro h
    split at h
    next hread =>
      obtain rfl := Option.some.inj h
      obtain ⟨hd, hcs⟩ := read_eq_some_iff.1 hread
      exact ⟨hd, hcs.trans (List.append_nil _)⟩
    next => cases h
  · rintro ⟨hd, rfl⟩
    have hread : read d.chars = some (d, []) :=
      read_eq_some_iff.2 ⟨hd, (List.append_nil _).symm⟩
    rw [hread]

example : ofText? "2000-02-29T23:59:59.999Z" = some ⟨⟨2000, 2, 29⟩, 23, 59, 59, 999⟩ :=
  by decide

theorem Valid.writable {d : DateTime} (h : d.Valid) : d.Writable where
  month := Nat.lt_of_le_of_lt h.date.month.2 (by decide)
  day := Nat.lt_of_le_of_lt (h.date.day.2.trans d.date.monthLength_le) (by decide)
  hour := h.hour.trans (by decide)
  minute := h.minute.trans (by decide)
  second := h.second.trans (by decide)
  millisecond := h.millisecond

theorem head?_chars_iff (d : DateTime) : d.chars.head? = some '+' ↔ 9999 < d.date.year := by
  rw [chars]
  simp only [List.append_assoc]
  exact head?_yearChars_iff _ _

end Calendar.DateTime
end SocksGateway
