import SocksGateway.Proofs.Text.Json

/-!
Reading a mirror back. A file is split at its line breaks, and each line is decoded, read as JSON
and looked through for the keys of an entry. Main statement: `lines_lossless`, a line stands for its
entry and for no other, and a file of lines for its entries in order.
-/
namespace SocksGateway

def Utf8.decode? (bs : List UInt8) : Option (List Char) :=
  (String.fromUTF8? bs.toByteArray).map String.toList

theorem Utf8.decode?_encode (cs : List Char) : decode? (encode cs) = some cs := by
  have hbytes : (encode cs).toByteArray = (String.ofList cs).toByteArray :=
    String.toByteArray_ofList.symm
  have hvalid : (encode cs).toByteArray.IsValidUTF8 := hbytes ▸ (String.ofList cs).isValidUTF8
  have htext : String.fromUTF8 (encode cs).toByteArray hvalid = String.ofList cs :=
    String.toByteArray_inj.1 hbytes
  rw [decode?, String.fromUTF8?, dif_pos hvalid, htext, Option.map_some, String.toList_ofList]

namespace Json

def text? : Json → Option String
  | string text => some text
  | _ => none

def u64? : Json → Option UInt64
  | number (.ofNat n) 0 => if n < 2 ^ 64 then some (UInt64.ofNat n) else none
  | _ => none

theorem u64?_number (n : UInt64) : u64? (number n.toNat 0) = some n := by
  have hlt : n.toNat < 2 ^ 64 := n.toNat_lt
  show (if n.toNat < 2 ^ 64 then some (UInt64.ofNat n.toNat) else none) = some n
  rw [if_pos hlt, UInt64.ofNat_toNat]

end Json

namespace Payload

def json : Payload → Json
  | description text => .string text
  | data value => .number value.toNat 0

def ofMembers? (ms : List (String × Json)) : Option Payload :=
  match ms.lookup "description", ms.lookup "data" with
  | some v, none => v.text?.map description
  | none, some v => v.u64?.map data
  | _, _ => none

end Payload

namespace Entry

def members (e : Entry) : List (String × Json) :=
  [("timestamp", .number e.timestamp.toNat 0),
    ("time", .string (String.ofList (Calendar.timeChars e.timestamp.toNat))),
    ("event", .string e.event.name), (e.payload.key, e.payload.json)]

/-- The order of the keys does not count, nor does what else there is. -/
def ofMembers? (ms : List (String × Json)) : Option Entry := do
  let timestamp ← (← ms.lookup "timestamp").u64?
  let event ← EventKind.ofName? (← (← ms.lookup "event").text?)
  let payload ← Payload.ofMembers? ms
  some ⟨timestamp, event, payload⟩

theorem ofMembers?_members (e : Entry) : ofMembers? e.members = some e := by
  have hpayload : Payload.ofMembers? e.members = some e.payload := by
    obtain ⟨timestamp, event, payload⟩ := e
    cases payload with
    | description text => rfl
    | data value => exact congrArg (Option.map Payload.data) (Json.u64?_number value)
  have hstamp : e.members.lookup "timestamp" = some (.number e.timestamp.toNat 0) := rfl
  have hevent : e.members.lookup "event" = some (.string e.event.name) := rfl
  simp [ofMembers?, hstamp, hevent, hpayload, Json.u64?_number, Json.text?, EventKind.ofName?_name]

end Entry

namespace Json

def membersOf? (line : List UInt8) : Option (List (String × Json)) := do
  match ← ofChars? (← Utf8.decode? line) with
  | object ms => some ms
  | _ => none

end Json

namespace Entry

def written (e : Entry) : List Json.Member :=
  [⟨"timestamp", Numeral.write 10 e.timestamp.toNat, .number e.timestamp.toNat 0⟩,
    ⟨"time", JsonString.chars (Calendar.timeChars e.timestamp.toNat),
      .string (String.ofList (Calendar.timeChars e.timestamp.toNat))⟩,
    ⟨"event", JsonString.chars e.event.name.toList, .string e.event.name⟩,
    ⟨e.payload.key, e.payload.jsonChars, e.payload.json⟩]

theorem reads_text (depth : Nat) (text : String) :
    Json.Reads (depth + 1) (JsonString.chars text.toList) (.string text) := by
  have h := Json.reads_string depth text.toList
  rwa [String.ofList_toList] at h

theorem reads_payload (depth : Nat) (p : Payload) : Json.Reads (depth + 1) p.jsonChars p.json := by
  cases p with
  | description text => exact reads_text depth text
  | data value => exact Json.reads_number depth value.toNat

theorem reads_written (e : Entry) (depth : Nat) :
    ∀ x ∈ e.written, Json.Reads (depth + 1) x.chars x.value := by
  intro x hx
  simp only [written, List.mem_cons, List.not_mem_nil, or_false] at hx
  rcases hx with rfl | rfl | rfl | rfl
  · exact Json.reads_number depth _
  · exact Json.reads_string depth _
  · exact reads_text depth _
  · exact reads_payload depth _

theorem ofChars?_recordChars (e : Entry) :
    Json.ofChars? e.recordChars = some (.object e.members) := by
  have hne : e.written ≠ [] := List.cons_ne_nil _ _
  have hchars : e.recordChars = objectChars (e.written.map fun m => (m.key, m.chars)) := rfl
  have hmembers : e.members = e.written.map Json.Member.pair := rfl
  rw [hchars, hmembers]
  exact Json.ofChars?_objectChars hne e.reads_written

theorem membersOf?_recordBytes (e : Entry) : Json.membersOf? e.recordBytes = some e.members := by
  rw [Json.membersOf?, recordBytes, Utf8.decode?_encode]
  simp only [Option.bind_eq_bind, Option.bind_some, ofChars?_recordChars]

def ofLine? (line : List UInt8) : Option Entry := do ofMembers? (← Json.membersOf? line)

/-- The entries of a whole file, which ends in a line break if it holds anything. -/
def ofLines? (bytes : List UInt8) : Option (List Entry) :=
  let pieces := bytes.splitOn 10
  if pieces.getLast? = some [] then pieces.dropLast.mapM ofLine? else none

theorem ofLine?_recordBytes (e : Entry) : ofLine? e.recordBytes = some e := by
  simp [ofLine?, membersOf?_recordBytes, ofMembers?_members]

theorem splitOn_lines (es : List Entry) :
    (es.flatMap lineBytes).splitOn 10 = es.map recordBytes ++ [[]] := by
  induction es with
  | nil => rfl
  | cons e es ih =>
    rw [List.flatMap_cons, lineBytes_eq, List.append_assoc, List.singleton_append,
      List.splitOn_append_cons_self_of_not_mem e.newline_notMem_recordBytes, ih]
    rfl

theorem ofLines?_lines (es : List Entry) : ofLines? (es.flatMap lineBytes) = some es := by
  have heach : ofLine? ∘ recordBytes = pure := funext ofLine?_recordBytes
  have hpure : es.mapM pure = (pure es : Option (List Entry)) := by
    rw [List.mapM_pure, List.map_id']
  rw [ofLines?, splitOn_lines, List.getLast?_concat, if_pos rfl, List.dropLast_concat,
    List.mapM_map, heach, hpure]
  rfl

theorem recordBytes_injective : Function.Injective recordBytes := by
  intro e e' h
  have hread := congrArg ofLine? h
  rw [ofLine?_recordBytes, ofLine?_recordBytes] at hread
  exact Option.some.inj hread

/-- A line has one line break, at its end. What is in front of it is an object with the keys of an
entry, and tells the entry. -/
theorem lines_lossless :
    (∀ e : Entry, ∃ record, e.lineBytes = record ++ [10] ∧ 10 ∉ record ∧
      Json.membersOf? record = some [("timestamp", .number e.timestamp.toNat 0),
        ("time", .string (String.ofList (Calendar.timeChars e.timestamp.toNat))),
        ("event", .string e.event.name), (e.payload.key, e.payload.json)] ∧
      ofLine? record = some e) ∧
    Function.Injective lineBytes ∧
    ∀ es : List Entry, ofLines? (es.flatMap lineBytes) = some es := by
  refine ⟨fun e => ?_, ?_, ofLines?_lines⟩
  · exact ⟨e.recordBytes, e.lineBytes_eq, e.newline_notMem_recordBytes, e.membersOf?_recordBytes,
      e.ofLine?_recordBytes⟩
  · intro e e' h
    rw [lineBytes_eq, lineBytes_eq] at h
    exact recordBytes_injective (List.append_cancel_right h)

end Entry
end SocksGateway
