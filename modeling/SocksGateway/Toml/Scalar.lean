import SocksGateway.Calendar.DateTime
import SocksGateway.Number.Binary64
import SocksGateway.Toml.Blanks

namespace SocksGateway.Toml
open Calendar

def isDecimal (c : Char) : Bool := Numeral.isDigit 10 c

/-- Digits that follow a first one, with single underscores between digits left out. -/
def moreDigits (base : Nat) : List Char → List Char × List Char
  | [] => ([], [])
  | '_' :: c :: cs =>
    if Numeral.isDigit base c then
      let (ds, rest) := moreDigits base cs
      (c :: ds, rest)
    else ([], '_' :: c :: cs)
  | c :: cs =>
    if Numeral.isDigit base c then
      let (ds, rest) := moreDigits base cs
      (c :: ds, rest)
    else ([], c :: cs)

def digits (base : Nat) : Reader (List Char)
  | c :: cs =>
    if Numeral.isDigit base c then
      let (ds, rest) := moreDigits base cs
      some (c :: ds, rest)
    else none
  | [] => none

def sign : List Char → Bool × List Char
  | '+' :: cs => (false, cs)
  | '-' :: cs => (true, cs)
  | cs => (false, cs)

/-- A zero is not followed by further digits. -/
def wholeDigits : Reader (List Char)
  | '0' :: cs => some (['0'], cs)
  | cs => digits 10 cs

def maxInteger : Nat := 9223372036854775807

def decimalInteger : Reader Int := fun cs => do
  let (negative, cs) := sign cs
  let (ds, cs) ← wholeDigits cs
  let n := Numeral.value 10 ds
  if negative then if n ≤ maxInteger + 1 then some (-n, cs) else none
  else if n ≤ maxInteger then some (n, cs) else none

def basedInteger (base : Nat) : Reader Int := fun cs => do
  let (ds, cs) ← digits base cs
  let n := Numeral.value base ds
  if n ≤ maxInteger then some (n, cs) else none

/-- The bases other than ten have a mark in front, and no sign. -/
def integer : Reader Int
  | '0' :: 'x' :: cs => basedInteger 16 cs
  | '0' :: 'o' :: cs => basedInteger 8 cs
  | '0' :: 'b' :: cs => basedInteger 2 cs
  | cs => decimalInteger cs

def exponent : Reader Int
  | c :: cs =>
    if c = 'e' ∨ c = 'E' then do
      let (negative, cs) := sign cs
      let (ds, cs) ← digits 10 cs
      let n : Int := Numeral.value 10 ds
      some (if negative then -n else n, cs)
    else none
  | [] => none

def fraction : Reader (List Char) := fun cs => do digits 10 (← Reader.skip '.' cs)

/-- A fraction, an exponent, or one after the other: the digits of the fraction and the exponent. -/
def fractionExponent : Reader (List Char × Int) := fun cs =>
  match fraction cs with
  | some (ds, cs) => match exponent cs with
    | some (e, cs) => some ((ds, e), cs)
    | none => some ((ds, 0), cs)
  | none => (exponent cs).map fun p => (([], p.1), p.2)

/-- A positive number that is too large is refused. -/
def decimalFloat : Reader Binary64 := fun cs => do
  let (negative, cs) := sign cs
  let (ds, cs) ← wholeDigits cs
  let ((fs, e), cs) ← fractionExponent cs
  let x := Binary64.ofDecimal negative (Numeral.value 10 (ds ++ fs)) (fs.length - e)
  if x = .infinite false then none else some (x, cs)

def namedFloat : Reader Binary64 := fun cs =>
  let (negative, cs) := sign cs
  match cs with
  | 'i' :: 'n' :: 'f' :: cs => some (.infinite negative, cs)
  | 'n' :: 'a' :: 'n' :: cs => some (.nan, cs)
  | _ => none

def float : Reader Binary64 := Reader.orElse decimalFloat namedFloat

def twoDigits (least most : Nat) : Reader Nat := fun cs => do
  let (ds, cs) ← Reader.exactly 2 isDecimal cs
  let n := Numeral.value 10 ds
  if least ≤ n ∧ n ≤ most then some (n, cs) else none

def date : Reader Date := fun cs => do
  let (ds, cs) ← Reader.exactly 4 isDecimal cs
  let (month, cs) ← twoDigits 1 12 (← Reader.skip '-' cs)
  let (day, cs) ← twoDigits 1 31 (← Reader.skip '-' cs)
  let d : Date := ⟨Numeral.value 10 ds, month, day⟩
  if d.valid then some (d, cs) else none

/-- A time of day; a second may be a leap second. -/
def time (cs : List Char) : Option (List Char) := do
  let (_, cs) ← twoDigits 0 23 cs
  let (_, cs) ← twoDigits 0 59 (← Reader.skip ':' cs)
  let (_, cs) ← twoDigits 0 60 (← Reader.skip ':' cs)
  match (Reader.skip '.' cs).bind (Reader.some1 isDecimal) with
  | some (_, rest) => some rest
  | none => some cs

def offset : List Char → Option (List Char)
  | 'Z' :: cs => some cs
  | 'z' :: cs => some cs
  | c :: cs =>
    if c = '+' ∨ c = '-' then do
      let (_, cs) ← twoDigits 0 23 cs
      let (_, cs) ← twoDigits 0 59 (← Reader.skip ':' cs)
      some cs
    else none
  | [] => none

def clock : List Char → Option (List Char)
  | c :: cs =>
    if c = 'T' ∨ c = 't' ∨ c = ' ' then do
      let cs ← time cs
      some ((offset cs).getD cs)
    else none
  | [] => none

def moment (cs : List Char) : Option (List Char) :=
  match date cs with
  | some (_, cs) => some ((clock cs).getD cs)
  | none => time cs

end SocksGateway.Toml
