import SocksGateway.Policy.PolicyTable

namespace SocksGateway

namespace Blank

theorem isBlank_head_trimStart (cs : List Char) :
    ∀ c ∈ (trimStart cs).head?, isBlank c = false := by
  intro c hc
  have h := List.head?_dropWhile_not isBlank cs
  rw [trimStart] at hc
  rw [Option.mem_def.1 hc] at h
  exact h

theorem trimEnd_prefix (cs : List Char) : trimEnd cs <+: cs := by
  rw [← List.reverse_suffix, trimEnd, List.reverse_reverse]
  exact List.dropWhile_suffix _

theorem trimmed_trim (cs : List Char) : Trimmed (trim cs) := by
  constructor
  · intro c hc
    obtain ⟨t, ht⟩ := trimEnd_prefix (trimStart cs)
    apply isBlank_head_trimStart cs c
    rw [← ht, List.head?_append, show (trimEnd (trimStart cs)).head? = some c from hc]
    rfl
  · intro c hc
    rw [trim, trimEnd, List.getLast?_reverse] at hc
    exact isBlank_head_trimStart _ c hc

@[simp] theorem trim_trim (cs : List Char) : trim (trim cs) = trim cs :=
  trim_of_trimmed (trimmed_trim cs)

end Blank

@[simp] theorem ProcessName.key_trimmed (name : String) : key (trimmed name) = key name := by
  simp [key, trimmed]

@[simp] theorem Rule.key_ofName (name : String) : (Rule.ofName name).key = ProcessName.key name :=
  ProcessName.key_trimmed name

namespace Rule

theorem find?_place (rule : Rule) (rs : List Rule) (k : String) :
    (rule.place rs).find? (·.key = k) =
      if rule.key = k then some rule else rs.find? (·.key = k) := by
  induction rs with
  | nil => simp [place, List.find?_cons]; split <;> simp_all
  | cons r rs ih =>
    unfold place
    split
    next => simp only [List.find?_cons]; split <;> simp_all
    next hge =>
      split
      next hgt =>
        have hne : r.key ≠ rule.key := fun h => String.lt_irrefl _ (h ▸ hgt)
        simp only [List.find?_cons, ih]
        by_cases hr : r.key = k
        · simp [hr, show rule.key ≠ k from fun h => hne (hr.trans h.symm)]
        · simp [hr]
      next hle =>
        have he : rule.key = r.key := String.le_antisymm (String.not_lt.1 hle) (String.not_lt.1 hge)
        simp only [List.find?_cons, ← he]
        split <;> simp_all

theorem find?_of_mem {rs : List Rule} (h : rs.Pairwise (·.key < ·.key)) {r : Rule}
    (hr : r ∈ rs) :
    rs.find? (·.key = r.key) = some r := by
  induction rs with
  | nil => cases hr
  | cons x xs ih =>
    obtain ⟨hx, hxs⟩ := List.pairwise_cons.1 h
    rcases List.mem_cons.1 hr with rfl | hr
    · simp
    · have hne : x.key ≠ r.key := fun he => String.lt_irrefl _ (he ▸ hx r hr)
      simp [hne, ih hxs hr]

end Rule

namespace PolicyTable

theorem get?_eq_some_iff (t : PolicyTable) (name : String) (r : Rule) :
    t.get? name = some r ↔ r ∈ t.rules ∧ r.key = ProcessName.key name := by
  constructor
  · intro h
    exact ⟨List.mem_of_find?_eq_some h, key_of_get? h⟩
  · intro hx
    obtain ⟨hr, hk⟩ := hx
    rw [get?, ← hk]
    exact Rule.find?_of_mem t.sorted hr

theorem get?_put (t : PolicyTable) (rule : Rule) (name : String) :
    (t.put rule).get? name = if rule.key = ProcessName.key name then some rule else t.get? name :=
  rule.find?_place t.rules _

theorem get?_congr (t : PolicyTable) {p q : String} (h : ProcessName.key p = ProcessName.key q) :
    t.get? p = t.get? q := by
  rw [get?, get?, h]

@[simp] theorem key_ruleFor (t : PolicyTable) (name : String) :
    (t.ruleFor name).key = ProcessName.key name := by
  unfold ruleFor
  cases h : t.get? name with
  | none => exact Rule.key_ofName name
  | some r => exact key_of_get? h

theorem ruleFor_of_get? {t : PolicyTable} {name : String} {r : Rule} (h : t.get? name = some r) :
    t.ruleFor name = r := by
  simp [ruleFor, h]

end PolicyTable
end SocksGateway
