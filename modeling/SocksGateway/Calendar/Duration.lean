import SocksGateway.Text.Numeral

namespace SocksGateway

structure Duration where
  seconds : Nat := 0
  nanos : Nat := 0
deriving DecidableEq, Inhabited

namespace Duration

def ofMillis (ms : Nat) : Duration := ⟨ms / 1000, ms % 1000 * 1000000⟩

def millis (d : Duration) : Nat := d.seconds * 1000 + d.nanos / 1000000

/-- Zeros at the end of a fraction are left out, and the point with them if nothing is left. -/
def fractionChars (digits n : Nat) : List Char :=
  let ds := ((Numeral.pad digits n).reverse.dropWhile (· == '0')).reverse
  if n = 0 then [] else '.' :: ds

def chars (d : Duration) : List Char :=
  if 0 < d.seconds then Numeral.write 10 d.seconds ++ fractionChars 9 d.nanos ++ ['s']
  else if 1000000 ≤ d.nanos then
    Numeral.write 10 (d.nanos / 1000000) ++ fractionChars 6 (d.nanos % 1000000) ++ ['m', 's']
  else if 1000 ≤ d.nanos then
    Numeral.write 10 (d.nanos / 1000) ++ fractionChars 3 (d.nanos % 1000) ++ ['µ', 's']
  else Numeral.write 10 d.nanos ++ ['n', 's']

def toText (d : Duration) : String := String.ofList d.chars

instance : ToString Duration := ⟨toText⟩

theorem millis_ofMillis (ms : Nat) : (ofMillis ms).millis = ms := by
  simp only [millis, ofMillis]
  omega

end Duration
end SocksGateway
