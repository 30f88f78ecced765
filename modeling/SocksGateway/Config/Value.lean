import SocksGateway.Number.Binary64

/-!
Values of structured texts: what a configuration is decoded from and encoded to. A table keeps its
entries in order. Tables that a document lists one by one are an array too, but one of a kind of its
own.
-/
namespace SocksGateway

inductive Value
  | null
  | boolean (b : Bool)
  | integer (n : Int)
  | float (x : Binary64)
  | string (s : String)
  | moment
  | array (items : List Value)
  | table (entries : List (String × Value))
  | tables (items : List (List (String × Value)))
deriving Inhabited

namespace Value

def strings (texts : List String) : Value := array (texts.map string)

def ofOption (o : Option String) : Value :=
  match o with
  | some text => string text
  | none => null

def items? : Value → Option (List Value)
  | array items => some items
  | tables items => some (items.map table)
  | _ => none

end Value
end SocksGateway
