import SocksGateway.Policy.Rule

namespace SocksGateway

namespace Rule

/-- Puts a rule in its place, or in the place of the rule that has its key. -/
def place (rule : Rule) : List Rule → List Rule
  | [] => [rule]
  | r :: rs =>
    if rule.key < r.key then rule :: r :: rs
    else if r.key < rule.key then r :: place rule rs
    else rule :: rs

theorem mem_place {rule r : Rule} {rs : List Rule} (h : r ∈ rule.place rs) :
    r = rule ∨ r ∈ rs := by
  induction rs with
  | nil => simpa [place] using h
  | cons x xs ih =>
    unfold place at h
    split at h
    · simpa using h
    split at h
    · rcases List.mem_cons.1 h with h | h
      · simp [h]
      · rcases ih h with h | h <;> simp [h]
    · rcases List.mem_cons.1 h with h | h <;> simp [h]

theorem pairwise_place (rule : Rule) {rs : List Rule} (h : rs.Pairwise (·.key < ·.key)) :
    (rule.place rs).Pairwise (·.key < ·.key) := by
  induction rs with
  | nil => simp [place]
  | cons r rs ih =>
    obtain ⟨h1, h2⟩ := List.pairwise_cons.1 h
    unfold place
    split
    next hlt =>
      refine List.pairwise_cons.2 ⟨fun x hx => ?_, h⟩
      rcases List.mem_cons.1 hx with rfl | hx
      · exact hlt
      · exact String.lt_trans hlt (h1 x hx)
    next hge =>
      split
      next hgt =>
        refine List.pairwise_cons.2 ⟨fun x hx => ?_, ih h2⟩
        rcases mem_place hx with rfl | hx
        · exact hgt
        · exact h1 x hx
      next hle =>
        have he : rule.key = r.key := String.le_antisymm (String.not_lt.1 hle) (String.not_lt.1 hge)
        exact List.pairwise_cons.2 ⟨fun x hx => he ▸ h1 x hx, h2⟩

end Rule

structure PolicyTable where
  rules : List Rule
  sorted : rules.Pairwise (·.key < ·.key)

namespace PolicyTable

def empty : PolicyTable := ⟨[], .nil⟩

instance : Inhabited PolicyTable := ⟨empty⟩

def size (t : PolicyTable) : Nat := t.rules.length

def isEmpty (t : PolicyTable) : Bool := t.rules.isEmpty

def get? (t : PolicyTable) (name : String) : Option Rule :=
  t.rules.find? (·.key = ProcessName.key name)

def ruleFor (t : PolicyTable) (name : String) : Rule := (t.get? name).getD (Rule.ofName name)

def put (t : PolicyTable) (rule : Rule) : PolicyTable :=
  ⟨rule.place t.rules, rule.pairwise_place t.sorted⟩

def associate (t : PolicyTable) (name : String) (h : Handle) : PolicyTable :=
  t.put { t.ruleFor name with proxy := some h }

def exclude (t : PolicyTable) (name : String) : PolicyTable :=
  t.put { t.ruleFor name with excluded := true }

def allow (t : PolicyTable) (name : String) (n : Network) : PolicyTable :=
  t.put { t.ruleFor name with allowed := (t.ruleFor name).allowed.insert n }

def deny (t : PolicyTable) (name : String) (n : Network) : PolicyTable :=
  t.put { t.ruleFor name with denied := (t.ruleFor name).denied.insert n }

def dropAllowed? (t : PolicyTable) (name : String) (n : Network) : Option PolicyTable :=
  let rule := t.ruleFor name
  if rule.allowed.has n then some (t.put { rule with allowed := rule.allowed.erase n }) else none

def dropDenied? (t : PolicyTable) (name : String) (n : Network) : Option PolicyTable :=
  let rule := t.ruleFor name
  if rule.denied.has n then some (t.put { rule with denied := rule.denied.erase n }) else none

def description (t : PolicyTable) : String :=
  Description.record "PolicyTable" [("rules", Description.list (t.rules.map (·.description)))]

theorem key_of_get? {t : PolicyTable} {name : String} {r : Rule} (h : t.get? name = some r) :
    r.key = ProcessName.key name := by
  simpa using List.find?_some h

end PolicyTable
end SocksGateway
