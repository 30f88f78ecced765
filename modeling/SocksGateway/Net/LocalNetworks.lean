import SocksGateway.Net.Block

namespace SocksGateway

structure LocalFilter where
  enabled : Bool := false
deriving DecidableEq, Inhabited

namespace LocalFilter

/-- 10.0.0.0/8, 172.16.0.0/12, 192.168.0.0/16, 224.0.0.0/4 and 169.254.0.0/16. -/
def ranges : List (Block 32) :=
  [⟨0x0a000000#32, 8, by decide⟩, ⟨0xac100000#32, 12, by decide⟩,
    ⟨0xc0a80000#32, 16, by decide⟩,
   ⟨0xe0000000#32, 4, by decide⟩, ⟨0xa9fe0000#32, 16, by decide⟩]

def isLocal (a : Address) : Bool :=
  match a.canonical with
  | .v4 bits => ranges.any (·.contains bits)
  | .v6 _ => false

/-- A switched-off filter lets every address through. -/
def bypasses (f : LocalFilter) (a : Address) : Bool := f.enabled && isLocal a

theorem isLocal_canonical (a : Address) : isLocal a.canonical = isLocal a := by
  simp [isLocal, Address.canonical_canonical]

end LocalFilter
end SocksGateway
