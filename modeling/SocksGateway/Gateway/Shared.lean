import SocksGateway.Gateway.Basic

/-!
The gateway that all of a process share. It lives as long as somebody holds it; the first who asks
for it decides on its options.
-/
namespace SocksGateway

/-- Whoever holds the gateway, and the gateway while somebody does. -/
structure SharedGateway where
  holders : List String := []
  gateway : Option Gateway := none

namespace SharedGateway

instance : Inhabited SharedGateway := ⟨{}⟩

def hold (s : SharedGateway) (holder : String) : List String :=
  if holder ∈ s.holders then s.holders else s.holders ++ [holder]

/-- The gateway there is, or a new one. -/
def acquireWith (s : SharedGateway) (holder : String) (o : GatewayOptions) (relay : Relay)
    (files : FileTree) :
    SharedGateway :=
  ⟨s.hold holder, some (s.gateway.getD (Gateway.create o relay files))⟩

def acquire (s : SharedGateway) (holder : String) (o : GatewayOptions) : SharedGateway :=
  s.acquireWith holder o .accepting {}

/-- Whether there is a gateway, which is then held. -/
def current (s : SharedGateway) (holder : String) : Bool × SharedGateway :=
  if s.gateway.isSome then (true, { s with holders := s.hold holder }) else (false, s)

def share (s : SharedGateway) (holder other : String) : SharedGateway :=
  if holder ∈ s.holders then { s with holders := s.hold other } else s

/-- What letting go of the gateway came to: whether it was held, and the gateway as it ended if this
was its last holder. -/
structure Release where
  held : Bool
  shared : SharedGateway
  ended : Option Gateway

/-- The last who lets go of the gateway ends it. -/
def release (s : SharedGateway) (holder : String) : Release :=
  let rest := s.holders.filter (· != holder)
  if rest.isEmpty then ⟨holder ∈ s.holders, ⟨rest, none⟩, s.gateway.map (·.finish)⟩
  else ⟨holder ∈ s.holders, ⟨rest, s.gateway⟩, none⟩

def update (s : SharedGateway) (g : Gateway) : SharedGateway := { s with gateway := some g }

theorem acquireWith_of_live {s : SharedGateway} {g : Gateway} (h : s.gateway = some g)
    (holder : String) (o : GatewayOptions) (relay : Relay) (files : FileTree) :
    s.acquireWith holder o relay files = ⟨s.hold holder, some g⟩ := by
  simp [acquireWith, h]

end SharedGateway
end SocksGateway
