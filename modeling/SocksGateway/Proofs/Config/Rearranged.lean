import Mathlib.Data.List.Forall2
import SocksGateway.Proofs.Config.Meaning

namespace SocksGateway

def ProxySettings.Rearranged (s s' : ProxySettings) : Prop :=
  ∃ processes, processes.Perm s.processes ∧ s' = { s with processes }

structure RuleSettings.Rearranged (s s' : RuleSettings) : Prop where
  process : s'.process = s.process
  allowed : s'.allowed.Perm s.allowed
  denied : s'.denied.Perm s.denied

structure Config.Rearranged (c c' : Config) : Prop where
  bypassLan : c'.bypassLan = c.bypassLan
  logging : c'.logging = c.logging
  excludes : c'.excludes.Perm c.excludes
  proxies : List.Forall₂ ProxySettings.Rearranged c.proxies c'.proxies
  rules : ∃ rules, rules.Perm c.rules ∧ List.Forall₂ RuleSettings.Rearranged rules c'.rules

theorem RuleSettings.Rearranged.mem_texts {s s' : RuleSettings} (h : s.Rearranged s')
    (side : RangeSet) (text : String) : text ∈ side.texts s ↔ text ∈ side.texts s' := by
  cases side with
  | allowed => exact h.allowed.mem_iff.symm
  | denied => exact h.denied.mem_iff.symm

theorem RuleSettings.Rearranged.mem_ranges {s s' : RuleSettings} (h : s.Rearranged s')
    (range : String) :
    range ∈ s.allowed ++ s.denied ↔ range ∈ s'.allowed ++ s'.denied := by
  rw [List.mem_append, List.mem_append, h.allowed.mem_iff, h.denied.mem_iff]

section
variable {α β : Type} {R : α → β → Prop} {P : α → Prop} {Q : β → Prop}
  {as : List α} {bs : List β}

theorem exists_getElem?_iff (h : List.Forall₂ R as bs) (hPQ : ∀ a b, R a b → (P a ↔ Q b))
    (i : Nat) :
    (∃ a, as[i]? = some a ∧ P a) ↔ ∃ b, bs[i]? = some b ∧ Q b := by
  induction h generalizing i with
  | nil => simp
  | cons hab _ ih =>
    cases i with
    | zero => simpa using hPQ _ _ hab
    | succ i => simpa using ih i

theorem exists_mem_iff (h : List.Forall₂ R as bs) (hPQ : ∀ a b, R a b → (P a ↔ Q b)) :
    (∃ a ∈ as, P a) ↔ ∃ b ∈ bs, Q b := by
  induction h with
  | nil => simp
  | cons hab _ ih => simp [hPQ _ _ hab, ih]

theorem forall_mem_iff (h : List.Forall₂ R as bs) (hPQ : ∀ a b, R a b → (P a ↔ Q b)) :
    (∀ a ∈ as, P a) ↔ ∀ b ∈ bs, Q b := by
  have hnot := not_congr (exists_mem_iff h fun a b hab => not_congr (hPQ a b hab))
  simpa using hnot

end

namespace Config

theorem mem_texts {c : Config} {side : RangeSet} {key text : String} :
    text ∈ c.texts side key ↔ ∃ s ∈ c.rules, ProcessName.key s.process = key ∧
      text ∈ side.texts s := by
  simp [texts, and_assoc]

theorem Meant.mem_ranges {c : Config} {key : String} {r : Rule} (h : c.Meant key r)
    (side : RangeSet) (m : Network) :
    m ∈ (side.of r).ranges ↔
      ∃ text ∈ c.texts side key, ∃ n,
        Network.ofRangeText? text = some n ∧ n.truncate = m := by
  obtain ⟨ns, hns, hranges⟩ := h.ranges side
  have hmem : ∀ n, n ∈ ns ↔
      ∃ text ∈ c.texts side key, Network.ofRangeText? text = some n := by
    intro n
    rw [← List.mem_map, hns]
    simp
  simp only [hranges, List.mem_eraseDups, List.mem_map, hmem]
  constructor
  · rintro ⟨n, ⟨text, htext, hn⟩, hm⟩
    exact ⟨text, htext, n, hn, hm⟩
  · rintro ⟨text, htext, n, hn, hm⟩
    exact ⟨n, ⟨text, htext, hn⟩, hm⟩

namespace Rearranged
variable {c c' : Config} (h : c.Rearranged c')
include h

theorem mem_associations (a : Nat × String) : a ∈ c.associations ↔ a ∈ c'.associations := by
  rw [Config.mem_associations, Config.mem_associations]
  refine exists_getElem?_iff h.proxies (fun s s' hs => ?_) a.1
  obtain ⟨processes, hp, rfl⟩ := hs
  exact hp.mem_iff.symm

theorem assigns (key : String) (k : Handle) : c.Assigns key k ↔ c'.Assigns key k := by
  simp only [assigns_iff, h.mem_associations]

theorem excludes_iff (key : String) : c.Excludes key ↔ c'.Excludes key := by
  simp only [Excludes, h.excludes.mem_iff]

theorem exists_rule_iff {P : RuleSettings → Prop}
    (hP : ∀ s s' : RuleSettings, s.Rearranged s' → (P s ↔ P s')) :
    (∃ s ∈ c.rules, P s) ↔ ∃ s ∈ c'.rules, P s := by
  obtain ⟨rules, hperm, hrules⟩ := h.rules
  rw [← exists_mem_iff hrules hP]
  simp only [hperm.mem_iff]

theorem mem_texts (side : RangeSet) (key text : String) :
    text ∈ c.texts side key ↔ text ∈ c'.texts side key := by
  rw [Config.mem_texts, Config.mem_texts]
  exact h.exists_rule_iff fun s s' hs => by rw [hs.process, hs.mem_texts]

theorem mentions (key : String) : c.Mentions key ↔ c'.Mentions key := by
  have hrules := h.exists_rule_iff
    (P := fun s => ProcessName.key s.process = key ∧ s.allowed ++ s.denied ≠ [])
    fun s s' hs => by simp only [hs.process, Ne, List.eq_nil_iff_forall_not_mem, hs.mem_ranges]
  simp only [Mentions, h.assigns, h.excludes_iff, hrules]

theorem valid (hv : c.Valid) : c'.Valid where
  limit := h.logging ▸ hv.limit
  endpoints := by
    refine (forall_mem_iff h.proxies fun s s' hs => ?_).1 hv.endpoints
    obtain ⟨processes, -, rfl⟩ := hs
    exact Iff.rfl
  ranges := by
    obtain ⟨rules, hperm, hrules⟩ := h.rules
    refine (forall_mem_iff hrules fun s s' hs => ?_).1 fun s hs => hv.ranges s (hperm.mem_iff.1 hs)
    simp only [hs.mem_ranges]
  owners a ha b hb := hv.owners a ((h.mem_associations a).2 ha) b ((h.mem_associations b).2 hb)

theorem enteredFrom_eq (n : Nat) : enteredFrom n c.proxies = enteredFrom n c'.proxies := by
  have hproxies := h.proxies
  generalize c.proxies = proxies, c'.proxies = proxies' at hproxies
  induction hproxies generalizing n with
  | nil => rfl
  | cons hs _ ih =>
    obtain ⟨processes, -, rfl⟩ := hs
    rw [enteredFrom_cons, enteredFrom_cons, ih]
    rfl

variable {key : String} {r r' : Rule}

theorem mem_ranges (hr : c.Meant key r) (hr' : c'.Meant key r') (side : RangeSet) (m : Network) :
    m ∈ (side.of r).ranges ↔ m ∈ (side.of r').ranges := by
  simp only [hr.mem_ranges, hr'.mem_ranges, h.mem_texts]

theorem admits_eq (hr : c.Meant key r) (hr' : c'.Meant key r') (a : Address) :
    r.admits a = r'.admits a := by
  have hexcluded : r.excluded = r'.excluded :=
    Bool.eq_iff_iff.2 (hr.excluded.trans ((h.excludes_iff key).trans hr'.excluded.symm))
  have hallowed : ∀ m, m ∈ r.allowed.ranges ↔ m ∈ r'.allowed.ranges :=
    h.mem_ranges hr hr' .allowed
  have hdenied : ∀ m, m ∈ r.denied.ranges ↔ m ∈ r'.denied.ranges :=
    h.mem_ranges hr hr' .denied
  rw [Rule.admits, Rule.admits, hexcluded, NetworkSet.isEmpty_congr hallowed,
    NetworkSet.contains_congr hallowed, NetworkSet.contains_congr hdenied]

theorem proxy_eq (hr : c.Meant key r) (hr' : c'.Meant key r') : r.proxy = r'.proxy :=
  Option.ext fun k => (hr.proxy k).trans ((h.assigns key k).trans (hr'.proxy k).symm)

end Rearranged
end Config
end SocksGateway
