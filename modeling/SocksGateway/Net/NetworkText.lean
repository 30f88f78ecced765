import SocksGateway.Net.AddressText
import SocksGateway.Net.Block
import SocksGateway.Text.Blank

namespace SocksGateway.Network
open Address

def chars : Network → List Char
  | v4 b => v4Chars b.base ++ '/' :: Numeral.write 10 b.length
  | v6 b => v6Chars b.base ++ '/' :: Numeral.write 10 b.length

def toText (n : Network) : String := String.ofList n.chars

instance : ToString Network := ⟨toText⟩

def readBlock {w : Nat} (base : Reader (BitVec w)) (digits : Nat) : Reader (Block w) := fun cs => do
  let (base, cs) ← base cs
  let (n, cs) ← Numeral.read { maxDigits := some digits, limit := w + 1 } (← Reader.skip '/' cs)
  if h : n ≤ w then some (⟨base, n, h⟩, cs) else none

def read : Reader Network :=
  Reader.orElse (fun cs => (readBlock (readV4 lenient) 2 cs).map fun p => (v4 p.1, p.2))
    (fun cs => (readBlock (readV6 lenient) 3 cs).map fun p => (v6 p.1, p.2))

def ofChars? (cs : List Char) : Option Network := Reader.whole read cs

def ofText? (text : String) : Option Network := ofChars? text.toList

/-- A destination range: blanks around it do not count, nor do bits after the leading ones. -/
def ofRangeText? (text : String) : Option Network :=
  (ofChars? (Blank.trim text.toList)).map truncate

theorem truncate_of_ofRangeText? {text : String} {n : Network} (h : ofRangeText? text = some n) :
    n.truncate = n := by
  obtain ⟨m, _, rfl⟩ := Option.map_eq_some_iff.1 h
  exact truncate_truncate m

end SocksGateway.Network
