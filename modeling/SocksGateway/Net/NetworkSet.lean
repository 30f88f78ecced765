import SocksGateway.Net.NetworkText

namespace SocksGateway

structure NetworkSet where
  ranges : List Network := []
deriving DecidableEq, Inhabited

namespace NetworkSet

def has (s : NetworkSet) (n : Network) : Bool := s.ranges.contains n.truncate

def insert (s : NetworkSet) (n : Network) : NetworkSet :=
  if s.has n then s else ⟨s.ranges ++ [n.truncate]⟩

def erase (s : NetworkSet) (n : Network) : NetworkSet := ⟨s.ranges.filter (· != n.truncate)⟩

def contains (s : NetworkSet) (a : Address) : Bool := s.ranges.any (·.contains a)

def isEmpty (s : NetworkSet) : Bool := s.ranges.isEmpty

def size (s : NetworkSet) : Nat := s.ranges.length

def ofList (ns : List Network) : NetworkSet := ns.foldl insert {}

theorem ranges_insert (s : NetworkSet) (n : Network) :
    (s.insert n).ranges = if n.truncate ∈ s.ranges then s.ranges
      else s.ranges ++ [n.truncate] := by
  unfold insert has; split <;> simp_all

theorem mem_ranges_insert (s : NetworkSet) (n m : Network) :
    m ∈ (s.insert n).ranges ↔ m ∈ s.ranges ∨ m = n.truncate := by
  rw [ranges_insert]; split <;> simp_all

theorem mem_ranges_erase (s : NetworkSet) (n m : Network) :
    m ∈ (s.erase n).ranges ↔ m ∈ s.ranges ∧ m ≠ n.truncate := by
  simp [erase]

theorem has_insert_self (s : NetworkSet) (n : Network) : (s.insert n).has n = true := by
  simp [has, mem_ranges_insert]

theorem contains_insert (s : NetworkSet) (n : Network) (a : Address) :
    (s.insert n).contains a = (s.contains a || n.contains a) := by
  simp only [contains, ranges_insert]
  split
  next h =>
    cases hn : n.contains a with
    | false => simp
    | true =>
      have : (s.ranges.any fun m => m.contains a) = true :=
        List.any_eq_true.2 ⟨_, h, by simpa using hn⟩
      simp [this]
  next => simp

theorem contains_congr {s t : NetworkSet} (h : ∀ m, m ∈ s.ranges ↔ m ∈ t.ranges)
    (a : Address) :
    s.contains a = t.contains a := by
  rw [Bool.eq_iff_iff]
  simp [contains, h]

theorem isEmpty_congr {s t : NetworkSet} (h : ∀ m, m ∈ s.ranges ↔ m ∈ t.ranges) :
    s.isEmpty = t.isEmpty := by
  rw [Bool.eq_iff_iff]
  simp [isEmpty, List.eq_nil_iff_forall_not_mem, h]

end NetworkSet
end SocksGateway
