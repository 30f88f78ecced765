import SocksGateway.Net.Address
import SocksGateway.Text.Numeral
import SocksGateway.Text.Reader

namespace SocksGateway.Address

def octets (a : BitVec 32) : List Nat :=
  [a.toNat / 16777216, a.toNat / 65536 % 256, a.toNat / 256 % 256, a.toNat % 256]

def ofOctets (os : List Nat) : BitVec 32 := BitVec.ofNat 32 (os.foldl (fun n o => 256 * n + o) 0)

def lastGroups : Nat → Nat → List Nat
  | 0, _ => []
  | n + 1, a => lastGroups n (a / 65536) ++ [a % 65536]

def groups (a : BitVec 128) : List Nat := lastGroups 8 a.toNat

def ofGroups (gs : List Nat) : BitVec 128 :=
  BitVec.ofNat 128 (gs.foldl (fun n g => 65536 * n + g) 0)

def pair (a : BitVec 32) : List Nat := [a.toNat / 65536, a.toNat % 65536]

def joinWith (sep : Char) : List (List Char) → List Char
  | [] => []
  | [w] => w
  | w :: ws => w ++ sep :: joinWith sep ws

def v4Chars (a : BitVec 32) : List Char := joinWith '.' ((octets a).map (Numeral.write 10))

def groupChars (gs : List Nat) : List Char := joinWith ':' (gs.map (Numeral.write 16))

def leadingZeros (gs : List Nat) : Nat := (gs.takeWhile (· == 0)).length

def zeroRun : List Nat → Nat
  | [] => 0
  | g :: gs => max (leadingZeros (g :: gs)) (zeroRun gs)

/-- What stands before and after the first longest run of zero groups, if it has at least two. -/
def aroundZeros? (gs : List Nat) : Option (List Nat × List Nat) :=
  let n := zeroRun gs
  if 2 ≤ n then
    ((List.range gs.length).find? fun i => leadingZeros (gs.drop i) == n).map fun i =>
      (gs.take i, gs.drop (i + n))
  else none

def v6Chars (a : BitVec 128) : List Char :=
  match unmapped? a with
  | some b => [':', ':', 'f', 'f', 'f', 'f', ':'] ++ v4Chars b
  | none => match aroundZeros? (groups a) with
    | some (before, after) => groupChars before ++ [':', ':'] ++ groupChars after
    | none => groupChars (groups a)

def chars : Address → List Char
  | v4 a => v4Chars a
  | v6 a => v6Chars a

/-- What address texts differ in: whether octets may begin with a zero, and how many groups two
colons stand for at least. -/
structure Style where
  paddedOctets : Bool
  leastGap : Nat

def strict : Style := ⟨false, 1⟩

def lenient : Style := ⟨true, 0⟩

def Style.octet (s : Style) : Numeral.Rule :=
  { maxDigits := some 3, leadingZero := s.paddedOctets, limit := 256 }

def group : Numeral.Rule := { base := 16, maxDigits := some 4, limit := 65536 }

def readV4 (s : Style) : Reader (BitVec 32) := fun cs => do
  let (a, cs) ← Numeral.read s.octet cs
  let (b, cs) ← Numeral.read s.octet (← Reader.skip '.' cs)
  let (c, cs) ← Numeral.read s.octet (← Reader.skip '.' cs)
  let (d, cs) ← Numeral.read s.octet (← Reader.skip '.' cs)
  some (ofOctets [a, b, c, d], cs)

/-- At most `room` groups, with a colon before each but the first of the text. Four octets may stand
for the last two groups; the flag says that they do. -/
def readGroups (s : Style) : Nat → Bool → List Char → List Nat × Bool × List Char
  | 0, _, cs => ([], false, cs)
  | room + 1, first, cs =>
    let here := if first then some cs else Reader.skip ':' cs
    match if room = 0 then none else here.bind (readV4 s) with
    | some (a, rest) => (pair a, true, rest)
    | none => match here.bind (Numeral.read group) with
      | some (g, rest) =>
        let (gs, dotted, rest) := readGroups s room false rest
        (g :: gs, dotted, rest)
      | none => ([], false, cs)

def readV6 (s : Style) : Reader (BitVec 128) := fun cs =>
  let (before, dotted, rest) := readGroups s 8 true cs
  if before.length = 8 then some (ofGroups before, rest)
  else if dotted then none
  else do
    let rest ← Reader.skipAll [':', ':'] rest
    let (after, _, rest) := readGroups s (8 - before.length - s.leastGap) true rest
    let gap := List.replicate (8 - before.length - after.length) 0
    some (ofGroups (before ++ gap ++ after), rest)

def read (s : Style) : Reader Address :=
  Reader.orElse (fun cs => (readV4 s cs).map fun p => (v4 p.1, p.2))
    (fun cs => (readV6 s cs).map fun p => (v6 p.1, p.2))

def ofText? (text : String) : Option Address := Reader.whole (read strict) text.toList

def toText (a : Address) : String := String.ofList a.chars

instance : ToString Address := ⟨toText⟩

theorem length_groups (a : BitVec 128) : (groups a).length = 8 := rfl

theorem length_octets (a : BitVec 32) : (octets a).length = 4 := rfl

theorem ofOctets_octets (a : BitVec 32) : ofOctets (octets a) = a := by
  apply BitVec.eq_of_toNat_eq
  have := a.isLt
  simp only [ofOctets, octets, List.foldl_cons, List.foldl_nil, BitVec.toNat_ofNat]
  omega

theorem ofGroups_groups (a : BitVec 128) : ofGroups (groups a) = a := by
  apply BitVec.eq_of_toNat_eq
  have := a.isLt
  simp only [ofGroups, groups, lastGroups, List.nil_append, List.cons_append, List.foldl_cons,
    List.foldl_nil, BitVec.toNat_ofNat]
  omega

end SocksGateway.Address
