import SocksGateway.Text.Reader

namespace SocksGateway.Toml

def isBlank (c : Char) : Bool := c == ' ' || c == '\t'

/-- Characters that stand for themselves on one line: no controls but the tab. -/
def isPlain (c : Char) : Bool := c == '\t' || (32 ≤ c.toNat && c.toNat != 127)

def skipBlanks (cs : List Char) : List Char := cs.dropWhile isBlank

def newline : List Char → Option (List Char)
  | '\n' :: cs => some cs
  | '\r' :: '\n' :: cs => some cs
  | _ => none

/-- A comment up to the end of its line; a text without one is left as it is. -/
def skipComment : List Char → List Char
  | '#' :: cs => cs.dropWhile isPlain
  | cs => cs

def lineEnd (cs : List Char) : Option (List Char) :=
  match skipComment (skipBlanks cs) with
  | [] => some []
  | rest => newline rest

def space : Reader Unit
  | c :: cs => if isBlank c then some ((), cs) else (newline (c :: cs)).map ((), ·)
  | [] => none

def gapPart : Reader Unit
  | '#' :: cs => (newline (skipComment ('#' :: cs))).map ((), ·)
  | cs => space cs

def skipSpace (cs : List Char) : List Char := (Reader.many space cs).2

def skipGap (cs : List Char) : List Char := (Reader.many gapPart cs).2

end SocksGateway.Toml
