import SocksGateway.Calendar.DateTime
import SocksGateway.Text.JsonString

namespace SocksGateway

inductive EventKind
  | connected
  | disconnected
  | message
  | addressError
  | ndisError
deriving DecidableEq, Inhabited

namespace EventKind

def name : EventKind → String
  | connected => "connected"
  | disconnected => "disconnected"
  | message => "message"
  | addressError => "address_error"
  | ndisError => "ndis_error"

def label : EventKind → String
  | connected => "Connected"
  | disconnected => "Disconnected"
  | message => "Message"
  | addressError => "AddressError"
  | ndisError => "NdisError"

def ofName? : String → Option EventKind
  | "connected" => some connected
  | "disconnected" => some disconnected
  | "message" => some message
  | "address_error" => some addressError
  | "ndis_error" => some ndisError
  | _ => none

theorem ofName?_name (k : EventKind) : ofName? k.name = some k := by cases k <;> rfl

end EventKind

inductive Payload
  | description (text : String)
  | data (value : UInt64)
deriving DecidableEq, Inhabited

namespace Payload

def description? : Payload → Option String
  | description text => some text
  | data _ => none

def data? : Payload → Option UInt64
  | description _ => none
  | data value => some value

def key : Payload → String
  | description _ => "description"
  | data _ => "data"

def jsonChars : Payload → List Char
  | description text => JsonString.chars text.toList
  | data value => Numeral.write 10 value.toNat

end Payload

/-- The time stamp counts milliseconds from the start of 1970. -/
structure Entry where
  timestamp : UInt64
  event : EventKind
  payload : Payload
deriving DecidableEq, Inhabited

namespace Entry

def toText (e : Entry) : String :=
  "[" ++ toString e.timestamp ++ "] " ++ e.event.label ++ ": " ++
    match e.payload with
    | .description text => text
    | .data value => toString value

instance : ToString Entry := ⟨toText⟩

def fieldChars (key : String) (value : List Char) : List Char :=
  JsonString.chars key.toList ++ ':' :: value

def objectChars (fields : List (String × List Char)) : List Char :=
  '\x7b' :: [','].intercalate (fields.map fun f => fieldChars f.1 f.2) ++ ['\x7d']

def jsonChars (e : Entry) : List Char :=
  objectChars [("timestamp", Numeral.write 10 e.timestamp.toNat),
    ("event", JsonString.chars e.event.name.toList), (e.payload.key, e.payload.jsonChars)]

def json (e : Entry) : String := String.ofList e.jsonChars

def recordChars (e : Entry) : List Char :=
  objectChars [("timestamp", Numeral.write 10 e.timestamp.toNat),
    ("time", JsonString.chars (Calendar.timeChars e.timestamp.toNat)),
    ("event", JsonString.chars e.event.name.toList), (e.payload.key, e.payload.jsonChars)]

/-- What a mirror writes: the object with the civil time, and the line's end. -/
def line (e : Entry) : String := String.ofList (e.recordChars ++ ['\n'])

def lineBytes (e : Entry) : List UInt8 := e.line.toUTF8.toList

end Entry
end SocksGateway
