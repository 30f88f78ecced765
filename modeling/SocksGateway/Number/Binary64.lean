import SocksGateway.Text.Numeral

/-!
Binary floating point numbers of 64 bits. A finite one counts smallest steps, of which one has the
value 2^-1074; a decimal number is read as the nearest of them, a tie as the even one, and written
with the fewest digits that are read as the same number.
-/
namespace SocksGateway

inductive Binary64
  | nan
  | infinite (negative : Bool)
  | finite (negative : Bool) (steps : Nat)
deriving DecidableEq, Inhabited

namespace Binary64

/-- Numbers have 53 significant bits: the logarithm of the distance to the next number. -/
def gap (steps : Nat) : Nat := Nat.log2 steps + 1 - 53

/-- The nearest whole number to a quotient, of two the even one. -/
def roundDiv (num den : Nat) : Nat :=
  let q := num / den
  let r := num % den
  if 2 * r < den ∨ (2 * r = den ∧ q % 2 = 0) then q else q + 1

def ofQuotient (negative : Bool) (num den : Nat) : Binary64 :=
  let k := gap (num * Nat.pow 2 1074 / den)
  let steps := roundDiv (num * Nat.pow 2 1074) (den * Nat.pow 2 k) * Nat.pow 2 k
  if steps < Nat.pow 2 2098 then finite negative steps else infinite negative

def ofDecimal (negative : Bool) (digits : Nat) (places : Int) : Binary64 :=
  if digits = 0 then finite negative 0
  else
    let size : Int := (Numeral.write 10 digits).length - places
    if 400 < size then infinite negative
    else if size < -400 then finite negative 0
    else ofQuotient negative (digits * Nat.pow 10 (-places).toNat) (Nat.pow 10 places.toNat)

structure Decimal where
  digits : Nat
  exponent : Int
deriving DecidableEq, Inhabited

/-- Of the two multiples of a power of ten around a number the nearer that is read as the number. -/
def candidate? (steps : Nat) (exponent : Int) : Option Decimal :=
  let scale := Nat.pow 10 (-exponent).toNat
  let unit := Nat.pow 2 1076 * Nat.pow 10 exponent.toNat
  let value := 4 * steps * scale
  let distance := Nat.pow 2 (gap steps)
  let below :=
    (if 0 < gap steps ∧ steps = Nat.pow 2 (Nat.log2 steps) then 1 else 2) * distance * scale
  let above := 2 * distance * scale
  let even := steps / distance % 2 = 0
  let reads (c : Nat) : Bool :=
    let lo := value - below
    let hi := value + above
    if even then lo ≤ c * unit && c * unit ≤ hi else lo < c * unit && c * unit < hi
  let c := value / unit
  match reads c, reads (c + 1) with
  | true, true => some ⟨if 2 * (value % unit) < unit then c else c + 1, exponent⟩
  | true, false => some ⟨c, exponent⟩
  | false, true => some ⟨c + 1, exponent⟩
  | false, false => none

def magnitude (steps : Nat) : Int :=
  (Numeral.write 10 (steps * Nat.pow 10 400 / Nat.pow 2 1074)).length - 400

/-- The fewest digits that are read as the number; seventeen always suffice. A power of ten may lie
above the number and have more digits before the point. -/
def shortest (steps : Nat) : Decimal :=
  ((List.range 18).findSome? fun n =>
    candidate? steps (magnitude steps - (n : Nat))).getD ⟨0, 0⟩

/-- Without an exponent, and always with a point. -/
def Decimal.chars (d : Decimal) : List Char :=
  let ds := Numeral.write 10 d.digits
  let places := (-d.exponent).toNat
  if 0 ≤ d.exponent then ds ++ List.replicate d.exponent.toNat '0' ++ ['.', '0']
  else if places < ds.length then ds.take (ds.length - places) ++ '.' ::
    ds.drop (ds.length - places)
  else ['0', '.'] ++ List.replicate (places - ds.length) '0' ++ ds

def signChars (negative : Bool) : List Char := if negative then ['-'] else []

def chars : Binary64 → List Char
  | nan => ['N', 'a', 'N']
  | infinite negative => signChars negative ++ ['i', 'n', 'f']
  | finite negative steps =>
    signChars negative ++ (if steps = 0 then ['0', '.', '0'] else (shortest steps).chars)

def toText (x : Binary64) : String := String.ofList x.chars

instance : ToString Binary64 := ⟨toText⟩

end Binary64
end SocksGateway
