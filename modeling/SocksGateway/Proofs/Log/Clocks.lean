import SocksGateway.Proofs.Calendar.TimeOrder
import SocksGateway.Proofs.Log.Copy
import SocksGateway.Proofs.Log.LineReader

namespace SocksGateway

namespace Calendar

theorem timeChars_eq {t : Nat} (h : t < (DateTime.startOf 262143).sinceEpoch) :
    timeChars t = (DateTime.ofMillis t).chars := if_pos ((le_lastMillis_iff t).2 h)

theorem timeChars_of_late {t : Nat} (h : (DateTime.startOf 262143).sinceEpoch ≤ t) :
    timeChars t = [] :=
  if_neg fun hle => Int.not_lt.2 h ((le_lastMillis_iff t).1 hle)

end Calendar

namespace Entry

open Calendar

def time (e : Entry) : String := String.ofList (timeChars e.timestamp.toNat)

section
variable {e e' : Entry}

theorem toList_time (h : e.timestamp.toNat < (DateTime.startOf 262143).sinceEpoch) :
    e.time.toList = (DateTime.ofMillis e.timestamp.toNat).chars := by
  rw [time, String.toList_ofList, timeChars_eq h]

example :
    (⟨1700000000000, .message, .description "first"⟩ : Entry).time =
      "2023-11-14T22:13:20.000Z" :=
  by decide

theorem ofText?_time (h : e.timestamp.toNat < (DateTime.startOf 262143).sinceEpoch) :
    DateTime.ofText? e.time = some (DateTime.ofMillis e.timestamp.toNat) :=
  DateTime.ofChars?_eq_some_iff.2 ⟨(DateTime.valid_ofMillis _).writable, toList_time h⟩

theorem time_of_late (h : (DateTime.startOf 262143).sinceEpoch ≤ e.timestamp.toNat) :
    e.time = "" := by
  rw [time, timeChars_of_late h]

theorem time_lt_iff (h : e.timestamp.toNat < (DateTime.startOf 10000).sinceEpoch)
    (h' : e'.timestamp.toNat < (DateTime.startOf 10000).sinceEpoch) :
    e.time < e'.time ↔ e.timestamp < e'.timestamp := by
  have hshort {t : Nat} (ht : t < (DateTime.startOf 10000).sinceEpoch) :
      (DateTime.ofMillis t).ShortYear :=
    ⟨DateTime.valid_ofMillis t, Nat.le_of_lt_succ ((DateTime.lt_startOf_iff t 10000).1 ht)⟩
  have hearly {t : Nat} (ht : t < (DateTime.startOf 10000).sinceEpoch) :
      t < (DateTime.startOf 262143).sinceEpoch := by
    rw [DateTime.lt_startOf_iff] at ht ⊢
    omega
  rw [String.lt_iff, toList_time (hearly h), toList_time (hearly h'),
    DateTime.chars_lt_iff (hshort h) (hshort h'), DateTime.sinceEpoch_ofMillis,
      DateTime.sinceEpoch_ofMillis, UInt64.lt_iff_toNat_lt]
  omega

end

/-- A mirror that is on hands on the line of every entry, whatever its time stamp. -/
theorem record_of_on {m : Mirror} (h : m.disabled = false) (files : FileTree) (e : Entry) :
    ((m.record files e).mirror.sink, (m.record files e).files) =
      (m.sink.write files e.lineBytes).1 ∧
      (m.sink.Proper → m.sink.Willing →
        (m.record files e).mirror.output (m.record files e).files =
          m.output files ++ e.lineBytes) := by
  have hwritten : ((m.record files e).mirror.sink, (m.record files e).files) =
      (m.sink.write files e.lineBytes).1 := by
    have hact := Mirror.sink_act h files (.record e)
    exact Prod.ext hact.1 hact.2
  refine ⟨hwritten, fun hproper hwilling => ?_⟩
  obtain ⟨hsink, hfiles⟩ := Prod.mk.inj hwritten
  rw [Mirror.output, hsink, hfiles]
  exact (Sink.write_of_quiet hproper (hwilling.write files e.lineBytes).1).2

/-- Up to the end of year 262142 the civil time of a record is read as a date and time that exists
and that stands for the record's time stamp, and no other text is read as that one. Up to the end of
year 9999 civil times come in the order of the time stamps. Beyond the last of these years the civil
time is empty. A record is written in any case. -/
theorem clocks_agree :
    (∀ e : Entry, e.timestamp.toNat < (DateTime.startOf 262143).sinceEpoch →
      ∃ d, DateTime.ofText? e.time = some d ∧
      d.Valid ∧ d.sinceEpoch = e.timestamp.toNat ∧
        (e.time.toList.head? = some '+' ↔ 9999 < d.date.year) ∧
      ∀ s, DateTime.ofText? s = some d → s = e.time) ∧
    (∀ e e' : Entry, e.timestamp.toNat < (DateTime.startOf 10000).sinceEpoch →
      e'.timestamp.toNat < (DateTime.startOf 10000).sinceEpoch →
        (e.time < e'.time ↔ e.timestamp < e'.timestamp)) ∧
    (∀ e : Entry, (DateTime.startOf 262143).sinceEpoch ≤ e.timestamp.toNat ∨
      2 ^ 63 ≤ e.timestamp.toNat → e.time = "") ∧
    ∀ (m : Mirror) (files : FileTree) (e : Entry), m.disabled = false →
      ∃ record, 10 ∉ record ∧
      Json.membersOf? record = some [("timestamp", .number e.timestamp.toNat 0),
        ("time", .string e.time),
        ("event", .string e.event.name), (e.payload.key, e.payload.json)] ∧
      ((m.record files e).mirror.sink, (m.record files e).files) =
        (m.sink.write files (record ++ [10])).1 ∧
      (m.sink.Proper → m.sink.Willing →
        (m.record files e).mirror.output (m.record files e).files =
          m.output files ++ (record ++ [10])) := by
  refine ⟨fun e h => ?_, fun e e' => time_lt_iff, fun e h => ?_, fun m files e hon => ?_⟩
  · have hread := ofText?_time h
    refine ⟨_, hread, DateTime.valid_ofMillis _,
      DateTime.sinceEpoch_ofMillis _, ?_, fun s hs => ?_⟩
    · rw [toList_time h]
      exact DateTime.head?_chars_iff _
    · have hchars := (DateTime.ofChars?_eq_some_iff.1 hs).2
      exact String.toList_injective (hchars.trans (toList_time h).symm)
  · rcases h with h | h
    · exact time_of_late h
    · have hlate : lastMillis < e.timestamp.toNat := Nat.lt_of_lt_of_le (by decide) h
      exact time_of_late (Int.not_lt.1 fun hlt =>
        Nat.not_lt_of_le ((le_lastMillis_iff _).2 hlt) hlate)
  · refine ⟨e.recordBytes, e.newline_notMem_recordBytes, e.membersOf?_recordBytes, ?_⟩
    rw [← lineBytes_eq]
    exact record_of_on hon files e

/-- The end of a leap day, the last and the first millisecond of years with four digits and with
five, and one beyond all years; the device takes a line in parts. -/
theorem clocks_agree_at_bounds :
    let entry (t : UInt64) : Entry := ⟨t, .message, .description "a"⟩
    let leapDay := entry 951868799999
    let fourDigits := entry 253402300799999
    let fiveDigits := entry 253402300800000
    let late := entry 9223372036854775808
    let m := Mirror.ofDevice { writes := [.atMost 5, .interrupted] }
    (∃ d, DateTime.ofText? leapDay.time = some d ∧ d.Valid ∧ d.sinceEpoch = 951868799999) ∧
    leapDay.time < fourDigits.time ∧
    (∃ d, DateTime.ofText? fiveDigits.time = some d ∧ d.Valid ∧
      d.sinceEpoch = 253402300800000) ∧
    late.time = "" ∧
    ∃ record, Json.membersOf? record =
      some [("timestamp", .number 9223372036854775808 0), ("time", .string ""),
        ("event", .string "message"), ("description", .string "a")] ∧
      (m.record {} late).mirror.output (m.record {} late).files = record ++ [10] := by
  intro entry leapDay fourDigits fiveDigits late m
  have hfour : (DateTime.startOf 10000).sinceEpoch = 253402300800000 := by
    rw [DateTime.sinceEpoch_startOf]
    decide
  have hlast : (DateTime.startOf 262143).sinceEpoch = 8210266876800000 := by
    rw [DateTime.sinceEpoch_startOf]
    decide
  obtain ⟨hread, horder, hlate, hwritten⟩ := clocks_agree
  obtain ⟨d, hd, hvalid, hcount, -⟩ := hread leapDay (by rw [hlast]; decide)
  obtain ⟨d', hd', hvalid', hcount', -⟩ := hread fiveDigits (by rw [hlast]; decide)
  have hlt : leapDay.time < fourDigits.time :=
    (horder leapDay fourDigits (by rw [hfour]; decide) (by rw [hfour]; decide)).2 (by decide)
  have hempty : late.time = "" := hlate late (.inr (by decide))
  obtain ⟨record, -, hmembers, -, houtput⟩ := hwritten m {} late rfl
  rw [hempty] at hmembers
  exact ⟨⟨d, hd, hvalid, hcount⟩, hlt, ⟨d', hd', hvalid', hcount'⟩,
    hempty, record, hmembers,
    houtput nofun ⟨by simp [WriteReply.Willing], nofun⟩⟩

end Entry
end SocksGateway
