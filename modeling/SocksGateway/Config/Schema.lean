import SocksGateway.Config.Basic
import SocksGateway.Config.SchemaError

/-!
Configurations as values. A record is encoded as a table of all its fields; it is decoded from a
table, in which unknown keys do not count, or from an array of its fields in their order, of which
the last may be left out. The first field that does not fit decides how the decoding fails.
-/
namespace SocksGateway.Schema

abbrev Decoder (α : Type) := Value → Except SchemaError α

def mismatch {α : Type} (v : Value) (expected : String) : Except SchemaError α :=
  .error (.invalidType v.kindText expected)

def bool : Decoder Bool
  | .boolean b => .ok b
  | v => mismatch v "a boolean"

def textAs (expected : String) : Decoder String
  | .string s => .ok s
  | v => mismatch v expected

def text : Decoder String := textAs "a string"

def optional {α : Type} (d : Decoder α) : Decoder (Option α)
  | .null => .ok none
  | v => some <$> d v

def word (expected : String) : Decoder UInt64
  | .integer n =>
    if 0 ≤ n ∧ n < 18446744073709551616 then .ok (UInt64.ofNat n.toNat)
    else .error (.invalidValue n expected)
  | v => mismatch v expected

def list {α : Type} (d : Decoder α) : Decoder (List α) := fun v =>
  match v.items? with
  | some items => items.mapM d
  | none => mismatch v "a sequence"

/-- Nothing is kept beside a name: a null, an empty table, or an empty array. -/
def nothing : Value → Except SchemaError Unit
  | .null => .ok ()
  | .table entries => if entries.isEmpty then .ok () else .error .tableNotEmpty
  | .array items => if items.isEmpty then .ok () else .error .tableNotEmpty
  | .tables items => if items.isEmpty then .ok () else .error .tablesNotEmpty
  | v => .error (.notTable v.typeName)

/-- One of several names, as a text or as the only key of a table with nothing beside it. -/
def choice {α : Type} (ofName? : String → Option α) (names : List String) : Decoder α
  | .string s => named s
  | .table [] => .error .noEntry
  | .table [(s, v)] => do
    let a ← named s
    nothing v
    .ok a
  | .table _ => .error .manyEntries
  | _ => .error .notNameOrTable
where
  named (s : String) : Except SchemaError α :=
    match ofName? s with
    | some a => .ok a
    | none => .error (.unknownVariant s names)

/-- How a record takes its fields, one after the other; `σ` is a record of which some may be
missing. -/
structure Record (σ : Type) where
  name : String
  fields : List String
  empty : σ
  set : σ → String × Value → Except SchemaError σ

namespace Record
variable {σ : Type}

def given? (r : Record σ) : Value → Option (List (String × Value))
  | .table entries => some entries
  | .moment => some []
  | v => v.items?.map r.fields.zip

def decode (r : Record σ) (v : Value) : Except SchemaError σ :=
  match r.given? v with
  | some entries => entries.foldlM r.set r.empty
  | none => mismatch v ("struct " ++ r.name)

def missing (r : Record σ) (field : String) (v : Value) : SchemaError :=
  if v.items?.isSome then
    .invalidLength 0 ("struct " ++ r.name ++ " with " ++ toString r.fields.length ++ " elements")
  else .missingField field

end Record

def logRecord : Record LogSettings where
  name := "LoggingConfig"
  fields := ["level", "limit", "event_interval_ms", "mirror"]
  empty := {}
  set s := fun
    | ("level", v) => return { s with level := ← choice Level.ofName? Level.names v }
    | ("limit", v) => return { s with limit := ← word "usize" v }
    | ("event_interval_ms", v) => return { s with interval := ← word "u64" v }
    | ("mirror", v) => return { s with mirror := ← optional (textAs "path string") v }
    | _ => .ok s

def proxyRecord : Record (Option String × ProxySettings) where
  name := "ProxyConfig"
  fields := ["endpoint", "username", "password", "protocols", "start", "processes"]
  empty := (none, ⟨"", none, none, .both, true, []⟩)
  set p := fun
    | ("endpoint", v) => return (some (← text v), p.2)
    | ("username", v) => return (p.1, { p.2 with username := ← optional text v })
    | ("password", v) => return (p.1, { p.2 with password := ← optional text v })
    | ("protocols", v) =>
      return (p.1, { p.2 with protocols := ← choice ProtocolMask.ofName? ProtocolMask.names v })
    | ("start", v) => return (p.1, { p.2 with start := ← bool v })
    | ("processes", v) => return (p.1, { p.2 with processes := ← list text v })
    | _ => .ok p

def ruleRecord : Record (Option String × RuleSettings) where
  name := "RuleConfig"
  fields := ["process", "include_cidrs", "exclude_cidrs"]
  empty := (none, ⟨"", [], []⟩)
  set p := fun
    | ("process", v) => return (some (← text v), p.2)
    | ("include_cidrs", v) => return (p.1, { p.2 with allowed := ← list text v })
    | ("exclude_cidrs", v) => return (p.1, { p.2 with denied := ← list text v })
    | _ => .ok p

def logSettings : Decoder LogSettings := logRecord.decode

def proxySettings : Decoder ProxySettings := fun v => do
  let (endpoint, s) ← proxyRecord.decode v
  match endpoint with
  | some endpoint => .ok { s with endpoint }
  | none => .error (proxyRecord.missing "endpoint" v)

def ruleSettings : Decoder RuleSettings := fun v => do
  let (process, s) ← ruleRecord.decode v
  match process with
  | some process => .ok { s with process }
  | none => .error (ruleRecord.missing "process" v)

def configRecord : Record Config where
  name := "GatewayConfig"
  fields := ["bypass_lan", "excludes", "logging", "proxies", "rules"]
  empty := {}
  set c := fun
    | ("bypass_lan", v) => return { c with bypassLan := ← bool v }
    | ("excludes", v) => return { c with excludes := ← list text v }
    | ("logging", v) => return { c with logging := ← logSettings v }
    | ("proxies", v) => return { c with proxies := ← list proxySettings v }
    | ("rules", v) => return { c with rules := ← list ruleSettings v }
    | _ => .ok c

def config : Decoder Config := configRecord.decode

end SocksGateway.Schema

namespace SocksGateway

def LogSettings.toValue (s : LogSettings) : Value :=
  .table [("level", .string s.level.name), ("limit", .integer s.limit.toNat),
    ("event_interval_ms", .integer s.interval.toNat), ("mirror", .ofOption s.mirror)]

def ProxySettings.toValue (s : ProxySettings) : Value :=
  .table [("endpoint", .string s.endpoint), ("username", .ofOption s.username),
    ("password", .ofOption s.password), ("protocols", .string s.protocols.name),
    ("start", .boolean s.start), ("processes", .strings s.processes)]

def RuleSettings.toValue (s : RuleSettings) : Value :=
  .table [("process", .string s.process), ("include_cidrs", .strings s.allowed),
    ("exclude_cidrs", .strings s.denied)]

namespace Config

def toValue (c : Config) : Value :=
  .table [("bypass_lan", .boolean c.bypassLan), ("excludes", .strings c.excludes),
    ("logging", c.logging.toValue), ("proxies", .array (c.proxies.map (·.toValue))),
    ("rules", .array (c.rules.map (·.toValue)))]

def ofValue (v : Value) : Except SchemaError Config := Schema.config v

end Config
end SocksGateway
