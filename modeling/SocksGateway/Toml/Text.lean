import SocksGateway.Text.Numeral
import SocksGateway.Toml.Blanks

namespace SocksGateway.Toml

def isHexDigit (c : Char) : Bool := Numeral.isDigit 16 c

def numbered (digits : Nat) : Reader Char := fun cs => do
  let (ds, cs) ← Reader.exactly digits isHexDigit cs
  let n := Numeral.value 16 ds
  if h : n.isValidChar then some (Char.ofNatAux n h, cs) else none

def escape : Reader Char
  | 'b' :: cs => some ('\x08', cs)
  | 't' :: cs => some ('\t', cs)
  | 'n' :: cs => some ('\n', cs)
  | 'f' :: cs => some ('\x0c', cs)
  | 'r' :: cs => some ('\r', cs)
  | '\"' :: cs => some ('\"', cs)
  | '\\' :: cs => some ('\\', cs)
  | 'u' :: cs => numbered 4 cs
  | 'U' :: cs => numbered 8 cs
  | _ => none

def isBasic (c : Char) : Bool := isPlain c && c != '\"' && c != '\\'

def isLiteral (c : Char) : Bool := isPlain c && c != '\x27'

def basicPart : Reader (List Char)
  | '\\' :: cs => (escape cs).map fun p => ([p.1], p.2)
  | cs => Reader.some1 isBasic cs

/-- A backslash at the end of a line takes the line end and all space after it away. -/
def foldedPart (cs : List Char) : Option (List Char) := (newline (skipBlanks cs)).map skipSpace

/-- Line ends are read as line feeds. -/
def newlinePart : Reader (List Char) := fun cs => (newline cs).map (['\n'], ·)

/-- At most two quotation marks, which do not end a text of many lines. -/
def quotePart (quote : Char) : Reader (List Char) := fun cs =>
  let qs := cs.takeWhile (· == quote)
  if 0 < qs.length ∧ qs.length ≤ 2 then some (qs, cs.dropWhile (· == quote)) else none

def longBasicPart : Reader (List Char)
  | '\\' :: cs => match foldedPart cs with
    | some rest => some ([], rest)
    | none => basicPart ('\\' :: cs)
  | cs => Reader.orElse (Reader.some1 isBasic) (Reader.orElse newlinePart (quotePart '\"')) cs

def longLiteralPart : Reader (List Char) :=
  Reader.orElse (Reader.some1 isLiteral) (Reader.orElse newlinePart (quotePart '\x27'))

/-- Three quotation marks; up to two more before them belong to the text. -/
def longEnd (quote : Char) : Reader (List Char) := fun cs =>
  let n := (cs.takeWhile (· == quote)).length
  if 3 ≤ n then
    let more := min (n - 3) 2
    some (List.replicate more quote, cs.drop (more + 3))
  else none

/-- A line end right after the opening marks does not count. -/
def longBody (quote : Char) (part : Reader (List Char)) : Reader (List Char) := fun cs => do
  let (parts, cs) := Reader.many part ((newline cs).getD cs)
  let (last, cs) ← longEnd quote cs
  some (parts.flatten ++ last, cs)

def shortBasic : Reader (List Char) := fun cs => do
  let (parts, cs) := Reader.many basicPart (← Reader.skip '\"' cs)
  some (parts.flatten, ← Reader.skip '\"' cs)

def shortLiteral : Reader (List Char) := fun cs => do
  let cs ← Reader.skip '\x27' cs
  some (cs.takeWhile isLiteral, ← Reader.skip '\x27' (cs.dropWhile isLiteral))

def text : Reader String := fun cs =>
  let chars := match cs with
    | '\"' :: '\"' :: '\"' :: rest => longBody '\"' longBasicPart rest
    | '\x27' :: '\x27' :: '\x27' :: rest => longBody '\x27' longLiteralPart rest
    | '\"' :: _ => shortBasic cs
    | _ => shortLiteral cs
  chars.map fun p => (String.ofList p.1, p.2)

def isBareKey (c : Char) : Bool :=
  ('A' ≤ c && c ≤ 'Z') || ('a' ≤ c && c ≤ 'z') || ('0' ≤ c && c ≤ '9') || c ==
    '_' || c == '-'

def keyPart : Reader String := fun cs =>
  let cs := skipBlanks cs
  let chars := match cs with
    | '\"' :: _ => shortBasic cs
    | '\x27' :: _ => shortLiteral cs
    | _ => Reader.some1 isBareKey cs
  chars.map fun p => (String.ofList p.1, skipBlanks p.2)

/-- A key's parts before the last, and the last. -/
structure Key where
  path : List String
  name : String
deriving DecidableEq, Inhabited

/-- Keys have fewer parts than values may be nested. -/
def maxDepth : Nat := 80

def key : Reader Key := fun cs => do
  let (parts, cs) ← Reader.sepBy keyPart '.' cs
  if parts.length < maxDepth then some (⟨parts.dropLast, ← parts.getLast?⟩, cs) else none

end SocksGateway.Toml
