import SocksGateway.Config.Value
import SocksGateway.Text.Quoted

namespace SocksGateway

namespace Value

def kindText : Value → String
  | null => "null"
  | boolean b => "boolean \x60" ++ (if b then "true" else "false") ++ "\x60"
  | integer n => "integer \x60" ++ toString n ++ "\x60"
  | float x => "floating point \x60" ++ x.toText ++ "\x60"
  | string s => "string " ++ Quoted.string s
  | moment => "map"
  | array _ => "sequence"
  | table _ => "map"
  | tables _ => "sequence"

def typeName : Value → String
  | null => "null"
  | boolean _ => "boolean"
  | integer _ => "integer"
  | float _ => "float"
  | string _ => "string"
  | moment => "datetime"
  | array _ => "array"
  | table _ => "table"
  | tables _ => "array of tables"

end Value

inductive SchemaError
  | invalidType (found expected : String)
  | invalidValue (found : Int) (expected : String)
  | unknownVariant (name : String) (expected : List String)
  | missingField (name : String)
  | invalidLength (length : Nat) (expected : String)
  | notNameOrTable
  | noEntry
  | manyEntries
  | tableNotEmpty
  | tablesNotEmpty
  | notTable (found : String)
deriving DecidableEq, Inhabited

namespace SchemaError

def marked (text : String) : String := "\x60" ++ text ++ "\x60"

def message : SchemaError → String
  | invalidType found expected => "invalid type: " ++ found ++ ", expected " ++ expected
  | invalidValue found expected =>
    "invalid value: integer " ++ marked (toString found) ++ ", expected " ++ expected
  | unknownVariant name expected =>
    "unknown variant " ++ marked name ++ ", expected one of " ++
      ", ".intercalate (expected.map marked)
  | missingField name => "missing field " ++ marked name
  | invalidLength length expected =>
    "invalid length " ++ toString length ++ ", expected " ++ expected
  | notNameOrTable => "wanted string or table"
  | noEntry => "wanted exactly 1 element, found 0 elements"
  | manyEntries => "wanted exactly 1 element, more than 1 element"
  | tableNotEmpty => "expected empty table"
  | tablesNotEmpty => "expected empty array"
  | notTable found => "expected table, found " ++ found

end SchemaError
end SocksGateway
