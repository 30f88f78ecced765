import SocksGateway.Config.Value
import SocksGateway.Toml.Text

/-!
The tree that the statements of a TOML document build. How a table came to be decides what may be
added to it: one named by a header or written as a value is closed to dotted keys, one that only
stands on the way to another may still get its own header.
-/
namespace SocksGateway.Toml

inductive TableKind
  | headed
  | passed
  | dotted
deriving DecidableEq, Inhabited

inductive Node
  | leaf (value : Value)
  | table (kind : TableKind) (entries : List (String × Node))
  | tables (items : List (List (String × Node)))
deriving Inhabited

abbrev Entries := List (String × Node)

mutual

def Node.toValue : Node → Value
  | .leaf v => v
  | .table _ entries => .table (entryValues entries)
  | .tables items => .tables (itemValues items)

def entryValues : List (String × Node) → List (String × Value)
  | [] => []
  | (k, n) :: rest => (k, n.toValue) :: entryValues rest

def itemValues : List (List (String × Node)) → List (List (String × Value))
  | [] => []
  | es :: rest => entryValues es :: itemValues rest

end

namespace Entries

def set (es : Entries) (k : String) (n : Node) : Entries :=
  es.map fun e => if e.1 = k then (k, n) else e

/-- Nothing if the key is there already. -/
def add? (es : Entries) (k : String) (n : Node) : Option Entries :=
  if (es.lookup k).isSome then none else some (es ++ [(k, n)])

def remove (es : Entries) (k : String) : Entries := es.filter (·.1 != k)

/-- Changes the table at the end of a path. Missing tables are made on the way; of an array of
tables the last one is entered. A dotted path passes no table that a header named. -/
def alter (made : TableKind) (change : TableKind → Entries → Option Entries) (kind : TableKind)
    (es : Entries) : List String → Option Entries
  | [] => change kind es
  | k :: path =>
    match es.lookup k with
    | none => do
      let inner ← alter made change made [] path
      some (es ++ [(k, .table made inner)])
    | some (.leaf _) => none
    | some (.table kind inner) =>
      if made = .dotted ∧ kind = .headed then none
      else do
        let inner ← alter made change kind inner path
        some (set es k (.table kind inner))
    | some (.tables items) => do
      let inner ← alter made change .headed (← items.getLast?) path
      some (set es k (.tables (items.dropLast ++ [inner])))

/-- Adds a value under a key. The parts of a dotted key lead to a table that only dotted keys
made. -/
def assign (es : Entries) (key : Key) (v : Value) : Option Entries :=
  alter .dotted (fun kind inner =>
    if (kind == .dotted) == key.path.isEmpty then none else add? inner key.name (.leaf v))
    .headed es key.path

def atHeader (es : Entries) (key : Key) (change : Entries → Option Entries) : Option Entries :=
  alter .passed (fun _ => change) .headed es key.path

end Entries
end SocksGateway.Toml
