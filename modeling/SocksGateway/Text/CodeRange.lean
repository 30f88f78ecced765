namespace SocksGateway

/-- Both ends belong to a range. -/
abbrev CodeRanges := List (Nat × Nat)

def CodeRanges.has (rs : CodeRanges) (c : Char) : Bool :=
  rs.any fun r => r.1 ≤ c.toNat && c.toNat ≤ r.2

theorem CodeRanges.has_nil (c : Char) : CodeRanges.has [] c = false := rfl

theorem CodeRanges.has_cons (r : Nat × Nat) (rs : CodeRanges) (c : Char) :
    CodeRanges.has (r :: rs) c =
      ((r.1 ≤ c.toNat && c.toNat ≤ r.2) || CodeRanges.has rs c) := rfl

/-- Every `step`-th code point from `first` to `last` moves as far as `first` moves to `target`. -/
structure CodeRun where
  first : Nat
  last : Nat
  step : Nat
  target : Nat

def CodeRun.has (r : CodeRun) (n : Nat) : Bool :=
  r.first ≤ n && n ≤ r.last && (n - r.first) % r.step == 0

def CodeRun.image (r : CodeRun) (n : Nat) : Char := Char.ofNat (r.target + (n - r.first))

end SocksGateway
