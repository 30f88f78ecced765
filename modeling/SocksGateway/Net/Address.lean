/-!
Internet addresses as bit vectors, and endpoints: an address with a port. An address of the longer
family may hold one of the shorter family (a mapped address); `canonical` takes it out.
-/
namespace SocksGateway

inductive Address
  | v4 (bits : BitVec 32)
  | v6 (bits : BitVec 128)
deriving DecidableEq, Inhabited

namespace Address

/-- Eighty zeros and sixteen ones before the address. -/
def mapped (a : BitVec 32) : BitVec 128 := BitVec.ofNat 128 (0xffff * 4294967296 + a.toNat)

def unmapped? (a : BitVec 128) : Option (BitVec 32) :=
  if a.toNat / 4294967296 = 0xffff then some (BitVec.ofNat 32 a.toNat) else none

/-- A mapped address counts as the address it holds. -/
def canonical : Address → Address
  | v4 a => v4 a
  | v6 a => match unmapped? a with
    | some b => v4 b
    | none => v6 a

@[simp] theorem canonical_v4 (a : BitVec 32) : (v4 a).canonical = v4 a := rfl

theorem toNat_mapped (a : BitVec 32) : (mapped a).toNat = 0xffff * 4294967296 + a.toNat := by
  have := a.isLt
  simp only [mapped, BitVec.toNat_ofNat]
  omega

theorem unmapped?_mapped (a : BitVec 32) : unmapped? (mapped a) = some a := by
  have := a.isLt
  have h : (mapped a).toNat / 4294967296 = 0xffff := by rw [toNat_mapped]; omega
  rw [unmapped?, if_pos h, toNat_mapped]
  congr 1
  apply BitVec.eq_of_toNat_eq
  simp only [BitVec.toNat_ofNat]
  omega

theorem eq_mapped_of_unmapped? {a : BitVec 128} {b : BitVec 32} (h : unmapped? a = some b) :
    a = mapped b := by
  rw [unmapped?] at h
  split at h
  · obtain rfl := Option.some.inj h
    apply BitVec.eq_of_toNat_eq
    rw [toNat_mapped]
    simp only [BitVec.toNat_ofNat]
    omega
  · cases h

theorem canonical_mapped (a : BitVec 32) : (v6 (mapped a)).canonical = v4 a := by
  simp [canonical, unmapped?_mapped]

theorem canonical_canonical (a : Address) : a.canonical.canonical = a.canonical := by
  cases a with
  | v4 a => rfl
  | v6 a =>
    cases h : unmapped? a with
    | some b => simp [canonical, h]
    | none => simp [canonical, h]

end Address

/-- An address on one interface; only the longer family names interfaces. -/
inductive Host
  | v4 (bits : BitVec 32)
  | v6 (bits : BitVec 128) (scope : UInt32)
deriving DecidableEq, Inhabited

def Host.address : Host → Address
  | .v4 a => .v4 a
  | .v6 a _ => .v6 a

structure Endpoint where
  host : Host
  port : UInt16
deriving DecidableEq, Inhabited

def Endpoint.address (e : Endpoint) : Address := e.host.address

end SocksGateway
