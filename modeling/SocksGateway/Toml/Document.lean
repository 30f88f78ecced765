import SocksGateway.Toml.Scalar
import SocksGateway.Toml.Tree

namespace SocksGateway.Toml

def assignment (value : Reader Value) : Reader (Key × Value) := fun cs => do
  let (k, cs) ← key cs
  let (v, cs) ← value (skipBlanks (← Reader.skip '=' cs))
  some ((k, v), skipBlanks cs)

/-- The rest of an array; a comma may follow the last item. -/
def arrayRest (value : Reader Value) : Reader Value := fun cs =>
  let item : Reader Value := fun cs => do
    let (v, cs) ← value (skipGap cs)
    some (v, skipGap cs)
  match Reader.sepBy item ',' cs with
  | some (vs, cs) => do
    let cs := skipGap ((Reader.skip ',' cs).getD cs)
    some (.array vs, ← Reader.skip ']' cs)
  | none => do some (.array [], ← Reader.skip ']' (skipGap cs))

def inlineRest (value : Reader Value) : Reader Value := fun cs =>
  match Reader.sepBy (assignment value) ',' cs with
  | some (pairs, cs) => do
    let es ← pairs.foldlM (fun es p => Entries.assign es p.1 p.2) []
    some (.table (entryValues es), ← Reader.skip '\x7d' cs)
  | none => do some (.table [], ← Reader.skip '\x7d' (skipBlanks cs))

/-- Numbers, dates and times begin alike; the first reader that takes the text decides. -/
def numeric : Reader Value := fun cs =>
  match moment cs with
  | some cs => some (.moment, cs)
  | none => match float cs with
    | some (x, cs) => some (.float x, cs)
    | none => (integer cs).map fun p => (.integer p.1, p.2)

def value : Nat → Reader Value
  | 0 => fun _ => none
  | depth + 1 => fun cs =>
    match cs with
    | [] => none
    | '[' :: rest => if depth = 0 then none else arrayRest (value depth) rest
    | '\x7b' :: rest => if depth = 0 then none else inlineRest (value depth) rest
    | 't' :: _ => (Reader.skipAll ['t', 'r', 'u', 'e'] cs).map (.boolean true, ·)
    | 'f' :: _ => (Reader.skipAll ['f', 'a', 'l', 's', 'e'] cs).map (.boolean false, ·)
    | c :: _ =>
      if c = '\"' ∨ c = '\x27' then (text cs).map fun p => (.string p.1, p.2) else numeric cs

inductive Statement
  | assign (key : Key) (value : Value)
  | header (key : Key)
  | itemHeader (key : Key)
deriving Inhabited

def header : Reader Statement
  | '[' :: '[' :: cs => do
    let (k, cs) ← key cs
    some (.itemHeader k, ← Reader.skipAll [']', ']'] cs)
  | '[' :: cs => do
    let (k, cs) ← key cs
    some (.header k, ← Reader.skip ']' cs)
  | _ => none

def lineBody : Reader (Option Statement) := fun cs =>
  match cs with
  | '[' :: _ => do
    let (s, cs) ← header cs
    some (some s, ← lineEnd cs)
  | c :: _ =>
    if c = '#' ∨ c = '\n' ∨ c = '\r' then (lineEnd cs).map (none, ·)
    else do
      let ((k, v), cs) ← assignment (value maxDepth) cs
      some (some (.assign k v), ← lineEnd cs)
  | [] => some (none, [])

/-- One line; at the end of the document there is none. -/
def line : Reader (Option Statement)
  | [] => none
  | c :: cs => lineBody (skipBlanks (c :: cs))

/-- A byte order mark may stand first. -/
def statements (cs : List Char) : Option (List Statement) :=
  match Reader.many line ((Reader.skip '\ufeff' cs).getD cs) with
  | (lines, []) => some (lines.filterMap id)
  | _ => none

/-- The table that statements add to: the document itself, or one that a header opened. -/
inductive Place
  | root
  | table (key : Key)
  | item (key : Key)
deriving Inhabited

structure Building where
  root : Entries := []
  place : Place := .root
  entries : Entries := []
deriving Inhabited

namespace Building

def close (b : Building) : Option Entries :=
  match b.place with
  | .root => some b.entries
  | .table key => b.root.atHeader key fun es => es.add? key.name (.table .headed b.entries)
  | .item key => b.root.atHeader key fun es =>
    match es.lookup key.name with
    | none => some (es ++ [(key.name, .tables [b.entries])])
    | some (.tables items) => some (es.set key.name (.tables (items ++ [b.entries])))
    | some _ => none

/-- A table that stood only on the way to others is opened again with what it holds. -/
def reopened (root : Entries) (key : Key) : Option Entries :=
  let held (es : Entries) : Option Entries :=
    match es.lookup key.name with
    | none => some []
    | some (.table .passed inner) => some inner
    | some _ => none
  find root key.path held
where
  find (es : Entries) (path : List String) (held : Entries → Option Entries) : Option Entries :=
    match path with
    | [] => held es
    | k :: path =>
      match es.lookup k with
      | some (.table _ inner) => find inner path held
      | some (.tables items) => items.getLast?.bind (find · path held)
      | some (.leaf _) => none
      | none => some []

def step (b : Building) : Statement → Option Building
  | .assign key v => do some { b with entries := ← b.entries.assign key v }
  | .header key => do
    let root ← b.close
    let entries ← reopened root key
    let root ← root.atHeader key fun es => some (es.remove key.name)
    some ⟨root, .table key, entries⟩
  | .itemHeader key => do
    let root ← b.close
    let root ← root.atHeader key fun es =>
      match es.lookup key.name with
      | none => some (es ++ [(key.name, .tables [])])
      | some (.tables items) => some (es.set key.name (.tables items))
      | some _ => none
    some ⟨root, .item key, []⟩

end Building

def read (document : String) : Option Value := do
  let b ← (← statements document.toList).foldlM Building.step {}
  some (.table (entryValues (← b.close)))

end SocksGateway.Toml
