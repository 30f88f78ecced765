import SocksGateway.Net.Address

/-!
Blocks of addresses: all addresses that agree on a number of leading bits. A network is a block of
one of the two families; an address lies only in networks of its own family.
-/
namespace SocksGateway

structure Block (w : Nat) where
  base : BitVec w
  length : Nat
  length_le : length ≤ w
deriving DecidableEq

namespace Block
variable {w : Nat}

def hostBits (b : Block w) : Nat := w - b.length

def contains (b : Block w) (a : BitVec w) : Bool := b.base >>> b.hostBits == a >>> b.hostBits

/-- The same block with its lowest address as base. -/
def truncate (b : Block w) : Block w :=
  { b with base := (b.base >>> b.hostBits) <<< b.hostBits }

theorem ext {b c : Block w} (hb : b.base = c.base) (hl : b.length = c.length) : b = c := by
  cases b; cases c; simp_all

theorem contains_base (b : Block w) : b.contains b.base = true := by simp [contains]

@[simp] theorem hostBits_truncate (b : Block w) : b.truncate.hostBits = b.hostBits := rfl

theorem shift_truncate (b : Block w) : b.truncate.base >>> b.hostBits = b.base >>> b.hostBits := by
  apply BitVec.eq_of_getLsbD_eq
  intro i hi
  simp only [truncate, BitVec.getLsbD_ushiftRight, BitVec.getLsbD_shiftLeft]
  by_cases h : b.hostBits + i < w
  · simp [h]
  · simp [h, BitVec.getLsbD_of_ge b.base (b.hostBits + i) (by omega)]

@[simp] theorem contains_truncate (b : Block w) (a : BitVec w) :
    b.truncate.contains a = b.contains a := by
  simp [contains, shift_truncate]

@[simp] theorem truncate_truncate (b : Block w) : b.truncate.truncate = b.truncate := by
  apply ext
  · show (b.truncate.base >>> b.hostBits) <<< b.hostBits = b.truncate.base
    rw [shift_truncate]; rfl
  · rfl

end Block

inductive Network
  | v4 (block : Block 32)
  | v6 (block : Block 128)
deriving DecidableEq

namespace Network

def contains : Network → Address → Bool
  | v4 b, .v4 a => b.contains a
  | v6 b, .v6 a => b.contains a
  | _, _ => false

def truncate : Network → Network
  | v4 b => v4 b.truncate
  | v6 b => v6 b.truncate

@[simp] theorem contains_truncate (n : Network) (a : Address) :
    n.truncate.contains a = n.contains a := by
  cases n <;> cases a <;> simp [truncate, contains]

@[simp] theorem truncate_truncate (n : Network) : n.truncate.truncate = n.truncate := by
  cases n <;> simp [truncate]

end Network
end SocksGateway
