import SocksGateway.Net.AddressText
import SocksGateway.Text.Blank

namespace SocksGateway.Endpoint
open Address

def scopeChars (scope : UInt32) : List Char :=
  if scope = 0 then [] else '%' :: Numeral.write 10 scope.toNat

def hostChars : Host → List Char
  | .v4 a => v4Chars a
  | .v6 a scope => '[' :: v6Chars a ++ scopeChars scope ++ [']']

def chars (e : Endpoint) : List Char := hostChars e.host ++ ':' :: Numeral.write 10 e.port.toNat

def toText (e : Endpoint) : String := String.ofList e.chars

instance : ToString Endpoint := ⟨toText⟩

def readPort : Reader UInt16 := fun cs => do
  let (n, cs) ← Numeral.read { limit := 65536 } (← Reader.skip ':' cs)
  some (UInt16.ofNat n, cs)

/-- Without an interface it is zero. -/
def readScope (cs : List Char) : UInt32 × List Char :=
  match (Reader.skip '%' cs).bind (Numeral.read { limit := 4294967296 }) with
  | some (n, rest) => (UInt32.ofNat n, rest)
  | none => (0, cs)

def readV4 : Reader Endpoint := fun cs => do
  let (a, cs) ← Address.readV4 strict cs
  let (port, cs) ← readPort cs
  some (⟨.v4 a, port⟩, cs)

def readV6 : Reader Endpoint := fun cs => do
  let (a, cs) ← Address.readV6 strict (← Reader.skip '[' cs)
  let (scope, cs) := readScope cs
  let (port, cs) ← readPort (← Reader.skip ']' cs)
  some (⟨.v6 a scope, port⟩, cs)

def ofChars? (cs : List Char) : Option Endpoint := Reader.whole (Reader.orElse readV4 readV6) cs

def ofText? (text : String) : Option Endpoint := ofChars? text.toList

/-- A proxy listens on a port other than zero; blanks around its text do not count. -/
def ofProxyText? (text : String) : Option Endpoint :=
  (ofChars? (Blank.trim text.toList)).filter (·.port != 0)

theorem port_ne_zero_of_ofProxyText? {text : String} {e : Endpoint}
    (h : ofProxyText? text = some e) : e.port ≠ 0 := by
  have := (Option.filter_eq_some_iff.1 h).2
  simpa using this

end SocksGateway.Endpoint
