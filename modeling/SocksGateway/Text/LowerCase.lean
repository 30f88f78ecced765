import SocksGateway.Text.Casing

/-!
Full lower-casing of a text. It is not character by character: the capital sigma becomes a final
sigma at the end of a word, and the dotted capital i becomes two characters.
-/
namespace SocksGateway.LowerCase
open Casing

def isUpperAscii (c : Char) : Bool := 'A' ≤ c && c ≤ 'Z'

def isLowerAscii (c : Char) : Bool := 'a' ≤ c && c ≤ 'z'

def asciiChar (c : Char) : Char := if isUpperAscii c then Char.ofNat (c.toNat + 32) else c

def ascii (cs : List Char) : List Char := cs.map asciiChar

def isAscii (c : Char) : Bool := c.toNat < 128

def isCased (c : Char) : Bool :=
  if isAscii c then isUpperAscii c || isLowerAscii c else cased.has c

def isIgnorable (c : Char) : Bool :=
  if isAscii c then c == '\x27' || c == '.' || c == ':' || c == '^' || c == '\x60'
  else ignorable.has c

/-- Every character but the sigma, which needs its surroundings. -/
def char (c : Char) : List Char :=
  if isAscii c then [asciiChar c]
  else if c = 'İ' then ['i', '\u0307']
  else match lowerRuns.find? (·.has c.toNat) with
    | some run => [run.image c.toNat]
    | none => [c]

/-- The nearest character that is not skipped has a case. -/
def meetsCased (cs : List Char) : Bool :=
  match cs.dropWhile isIgnorable with
  | c :: _ => isCased c
  | [] => false

/-- A sigma ends a word if a letter stands before it and none after it. -/
def sigma (before after : List Char) : Char :=
  if meetsCased before && !meetsCased after then 'ς' else 'σ'

/-- `before` holds what has been read, nearest character first. -/
def lowerAfter (before : List Char) : List Char → List Char
  | [] => []
  | c :: after =>
    (if c = 'Σ' then [sigma before after] else char c) ++ lowerAfter (c :: before) after

def lower (cs : List Char) : List Char := lowerAfter [] cs

theorem char_of_isAscii {c : Char} (h : isAscii c = true) : char c = [asciiChar c] := by
  simp [char, h]

theorem lowerAfter_append (before as bs : List Char) (h : ∀ c ∈ as, c ≠ 'Σ') :
    lowerAfter before (as ++ bs) = as.flatMap char ++ lowerAfter (as.reverse ++ before) bs := by
  induction as generalizing before with
  | nil => rfl
  | cons c as ih =>
    have hc : c ≠ 'Σ' := h c (by simp)
    simp [lowerAfter, hc, ih (c :: before) (fun x hx => h x (by simp [hx]))]

end SocksGateway.LowerCase
