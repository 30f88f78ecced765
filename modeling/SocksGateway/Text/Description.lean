import SocksGateway.Text.Quoted

namespace SocksGateway.Description

def record (name : String) (fields : List (String × String)) : String :=
  name ++ " \x7b " ++ ", ".intercalate (fields.map fun f => f.1 ++ ": " ++ f.2) ++ " \x7d"

def list (items : List String) : String := "[" ++ ", ".intercalate items ++ "]"

def option : Option String → String
  | some text => "Some(" ++ text ++ ")"
  | none => "None"

def bool (b : Bool) : String := if b then "true" else "false"

end SocksGateway.Description
