import SocksGateway.Proofs.Policy.Product
import SocksGateway.Proofs.Text.ByteOrder

/-!
Tables of rules kept by reference. Each rule is in a cell that is never written again, and the cells
are found under keys in no order; a change copies a rule, revises the copy and puts it into a new
cell. Whatever order the keys are in, such a store answers as a table does, and what was found
before is still there afterwards.
-/
namespace SocksGateway

namespace ProcessName

def lowered (name : String) : String := String.ofList (LowerCase.lower name.toList)

theorem trimmed_trimmed (name : String) : trimmed (trimmed name) = trimmed name := by
  simp [trimmed]

theorem key_eq_lowered {name : String} (h : trimmed name = name) : key name = lowered name := by
  have hchars : Blank.trim name.toList = name.toList := by
    have hlist := congrArg String.toList h
    rwa [trimmed, String.toList_ofList] at hlist
  rw [key, hchars, lowered]

end ProcessName

theorem Rule.place_perm (rule : Rule) {rs : List Rule} (h : rs.Pairwise (·.key < ·.key)) :
    (rule.place rs).Perm (rule :: rs.filter (·.key ≠ rule.key)) := by
  have hkept : ∀ {xs : List Rule}, (∀ x ∈ xs, rule.key < x.key) →
      xs.filter (·.key ≠ rule.key) = xs := by
    intro xs hxs
    refine List.filter_eq_self.2 fun x hx => decide_eq_true fun he => ?_
    exact String.lt_irrefl _ (he ▸ hxs x hx)
  induction rs with
  | nil => exact .refl _
  | cons r rs ih =>
    obtain ⟨hr, hrs⟩ := List.pairwise_cons.1 h
    unfold place
    split
    next hlt =>
      rw [hkept (List.forall_mem_cons.2 ⟨hlt, fun x hx => String.lt_trans hlt (hr x hx)⟩)]
    next hge =>
      split
      next hgt =>
        have hne : r.key ≠ rule.key := fun he => String.lt_irrefl _ (he ▸ hgt)
        rw [List.filter_cons_of_pos (by simpa using hne)]
        exact ((ih hrs).cons r).trans (.swap _ _ _)
      next hle =>
        have he : rule.key = r.key := String.le_antisymm (String.not_lt.1 hle) (String.not_lt.1 hge)
        rw [List.filter_cons_of_neg (by simp [he]), hkept (by rwa [he])]

structure RuleStore where
  cells : List Rule := []
  index : List (String × Nat) := []

namespace RuleStore

def rule? (s : RuleStore) (name : String) : Option Rule :=
  (s.index.find? (·.1 = ProcessName.key name)).bind (s.cells[·.2]?)

/-- A rule in a new cell, which is the one of its key from now on. -/
def publish (s : RuleStore) (key : String) (r : Rule) : RuleStore :=
  ⟨s.cells ++ [r], (key, s.cells.length) :: s.index.filter (·.1 ≠ key)⟩

/-- A copy of the rule is revised, and is published unless that fails. -/
def perform (s : RuleStore) (c : PolicyCall) : Except GatewayError Unit × RuleStore :=
  match c.change.revise c.engine.registry.contains
      ((s.rule? c.change.process).getD (Rule.ofName c.change.process)) with
  | .ok r => (.ok (), s.publish (ProcessName.key c.change.process) r)
  | .error error => (.error error, s)

/-- What a store can come to in a number of calls, if its keys may change their places at any
time. -/
inductive Reaches : RuleStore → List PolicyCall → RuleStore → Prop
  | rest (s : RuleStore) : Reaches s [] s
  | reorder {s s' : RuleStore} {calls : List PolicyCall} (index : List (String × Nat))
      (same : s.index.Perm index)
      (later : Reaches { s with index } calls s') : Reaches s calls s'
  | call {s s' : RuleStore} {c : PolicyCall} {calls : List PolicyCall}
      (later : Reaches (s.perform c).2 calls s') :
      Reaches s (c :: calls) s'

def after (s : RuleStore) (calls : List PolicyCall) : RuleStore :=
  calls.foldl (fun s c => (s.perform c).2) s

theorem reaches_after (s : RuleStore) (calls : List PolicyCall) :
    s.Reaches calls (s.after calls) := by
  induction calls generalizing s with
  | nil => exact .rest s
  | cons c calls ih => exact .call (ih _)

theorem Reaches.reordered {s s' : RuleStore} {calls : List PolicyCall} (h : s.Reaches calls s')
    {index : List (String × Nat)} (same : s'.index.Perm index) :
    s.Reaches calls { s' with index } := by
  induction h with
  | rest s => exact .reorder index same (.rest _)
  | reorder index' same' _ ih => exact .reorder index' same' (ih same)
  | call _ ih => exact .call (ih same)

/-- The rules in the order of the bytes of their names in small letters. -/
def listed (s : RuleStore) : List Rule :=
  (s.index.filterMap (s.cells[·.2]?)).mergeSort fun r r' =>
    Utf8.bytes (ProcessName.lowered r.name) ≤ Utf8.bytes (ProcessName.lowered r'.name)

theorem cells_perform (s : RuleStore) (c : PolicyCall) : s.cells <+: (s.perform c).2.cells := by
  unfold perform
  split
  · exact List.prefix_append _ _
  · exact List.prefix_refl _

theorem Reaches.cells {s s' : RuleStore} {calls : List PolicyCall} (h : s.Reaches calls s') :
    s.cells <+: s'.cells := by
  induction h with
  | rest s => exact List.prefix_refl _
  | reorder _ _ _ ih => exact ih
  | call _ ih => exact (cells_perform _ _).trans ih

theorem Reaches.cell_eq {s s' : RuleStore} {calls : List PolicyCall} (h : s.Reaches calls s')
    {i : Nat} {r : Rule} (hr : s.cells[i]? = some r) : s'.cells[i]? = some r := by
  obtain ⟨hi, rfl⟩ := List.getElem?_eq_some_iff.1 hr
  exact List.prefix_iff_getElem?.1 h.cells i hi

/-- Every key leads to the cell of the rule that a table has under it. -/
def Represents (s : RuleStore) (t : PolicyTable) : Prop :=
  (s.index.map fun x => (x.1, s.cells[x.2]?)).Perm (t.rules.map fun r => (r.key, some r))

theorem represents_empty : Represents {} .empty := .nil

namespace Represents
variable {s : RuleStore} {t : PolicyTable} (h : s.Represents t)
include h

theorem mem_rules {key : String} {i : Nat} (hx : (key, i) ∈ s.index) :
    ∃ r ∈ t.rules, s.cells[i]? = some r ∧ r.key = key := by
  obtain ⟨r, hr, he⟩ := List.mem_map.1 (h.mem_iff.1 (List.mem_map_of_mem hx))
  obtain ⟨hkey, hcell⟩ := Prod.mk.inj he
  exact ⟨r, hr, hcell.symm, hkey⟩

theorem mem_index {r : Rule} (hr : r ∈ t.rules) :
    ∃ i, (r.key, i) ∈ s.index ∧ s.cells[i]? = some r := by
  obtain ⟨⟨key, i⟩, hx, he⟩ := List.mem_map.1 (h.mem_iff.2 (List.mem_map_of_mem hr))
  obtain ⟨rfl, hcell⟩ := Prod.mk.inj he
  exact ⟨i, hx, hcell⟩

theorem size_eq : s.index.length = t.size := by
  simpa [PolicyTable.size] using h.length_eq

theorem rule?_eq (name : String) : s.rule? name = t.get? name := by
  unfold rule?
  cases hfind : s.index.find? (·.1 = ProcessName.key name) with
  | none =>
    refine (Option.eq_none_iff_forall_not_mem.2 fun r hr => ?_).symm
    obtain ⟨hr, hkey⟩ := (t.get?_eq_some_iff name r).1 hr
    obtain ⟨i, hx, -⟩ := h.mem_index hr
    simpa [hkey] using List.find?_eq_none.1 hfind _ hx
  | some x =>
    obtain ⟨r, hr, hcell, hkey⟩ := h.mem_rules (List.mem_of_find?_eq_some hfind)
    have hname : x.1 = ProcessName.key name := by simpa using List.find?_some hfind
    rw [Option.bind_some, hcell]
    exact ((t.get?_eq_some_iff name r).2 ⟨hr, hkey.trans hname⟩).symm

theorem publish (rule : Rule) : (s.publish rule.key rule).Represents (t.put rule) := by
  have hold : ∀ x ∈ s.index, (s.cells ++ [rule])[x.2]? = s.cells[x.2]? := by
    intro x hx
    obtain ⟨r, -, hcell, -⟩ := h.mem_rules hx
    rw [hcell, List.getElem?_append_left (List.getElem?_eq_some_iff.1 hcell).1, hcell]
  have hothers :
      ((s.index.filter (·.1 ≠ rule.key)).map fun x => (x.1, (s.cells ++ [rule])[x.2]?)).Perm
      ((t.rules.filter (·.key ≠ rule.key)).map fun r => (r.key, some r)) := by
    have hfilter := h.filter (·.1 ≠ rule.key)
    simp only [List.filter_map, Function.comp_def] at hfilter
    have hsame :
        ((s.index.filter (·.1 ≠ rule.key)).map fun x => (x.1, (s.cells ++ [rule])[x.2]?)) =
        (s.index.filter (·.1 ≠ rule.key)).map fun x => (x.1, s.cells[x.2]?) :=
      List.map_congr_left fun x hx => by rw [hold x (List.mem_of_mem_filter hx)]
    rw [hsame]
    exact hfilter
  have hhead : (s.cells ++ [rule])[s.cells.length]? = some rule := by simp
  have hplaced : ((t.put rule).rules.map fun r => (r.key, some r)).Perm
      ((rule.key, some rule) :: (t.rules.filter (·.key ≠ rule.key)).map
        fun r => (r.key, some r)) :=
    (rule.place_perm t.sorted).map _
  have hindex :
      ((s.publish rule.key rule).index.map fun x => (x.1, (s.publish rule.key rule).cells[x.2]?)) =
      (rule.key, some rule) ::
        (s.index.filter (·.1 ≠ rule.key)).map fun x => (x.1, (s.cells ++ [rule])[x.2]?) := by
    rw [← hhead]
    rfl
  unfold Represents
  rw [hindex]
  exact (hothers.cons _).trans hplaced.symm

theorem perform (c : PolicyCall) :
    (s.perform c).1 = (t.perform c).1 ∧ (s.perform c).2.Represents (t.perform c).2 := by
  have hcopy : (s.rule? c.change.process).getD (Rule.ofName c.change.process) =
      t.ruleFor c.change.process := by
    rw [h.rule?_eq, PolicyTable.ruleFor]
  rw [RuleStore.perform, hcopy, PolicyTable.perform]
  cases hr : c.change.revise c.engine.registry.contains (t.ruleFor c.change.process) with
  | ok r =>
    have hkey : ProcessName.key c.change.process = r.key := by
      rw [RuleChange.key_revise hr, PolicyTable.key_ruleFor]
    obtain ⟨text, hc⟩ := Engine.change_of_revised_ok (e := { c.engine with policy := t }) hr
    rw [hc, hkey]
    exact ⟨rfl, h.publish r⟩
  | error error =>
    rw [Engine.change_of_revised_error (e := { c.engine with policy := t }) hr]
    exact ⟨rfl, h⟩

end Represents

theorem Reaches.represents {s s' : RuleStore} {t : PolicyTable} {calls : List PolicyCall}
    (hs : s.Reaches calls s') (h : s.Represents t) : s'.Represents (t.after calls) := by
  induction hs generalizing t with
  | rest s => exact h
  | reorder index same _ ih => exact ih ((same.symm.map _).trans h)
  | call _ ih => exact ih (h.perform _).2

end RuleStore

namespace PolicyTable

/-- No rule has a name with blanks around it. -/
def Tidy (t : PolicyTable) : Prop := ∀ r ∈ t.rules, ProcessName.trimmed r.name = r.name

theorem Tidy.ruleFor {t : PolicyTable} (h : t.Tidy) (name : String) :
    ProcessName.trimmed (t.ruleFor name).name = (t.ruleFor name).name := by
  unfold PolicyTable.ruleFor
  cases hr : t.get? name with
  | none => exact ProcessName.trimmed_trimmed name
  | some r => exact h r ((t.get?_eq_some_iff name r).1 hr).1

theorem Tidy.perform {t : PolicyTable} (h : t.Tidy) (c : PolicyCall) : (t.perform c).2.Tidy := by
  rcases t.perform_cases c with ⟨error, hc⟩ | hc
  · rw [hc]
    exact h
  · rw [hc]
    intro r hr
    rcases Rule.mem_place hr with rfl | hr
    · exact h.ruleFor c.change.process
    · exact h r hr

theorem tidy_after (calls : List PolicyCall) : (empty.after calls).Tidy := by
  induction calls using List.reverseRecOn with
  | nil => exact fun r hr => absurd hr List.not_mem_nil
  | append_singleton calls c ih =>
    have hafter : empty.after (calls ++ [c]) = ((empty.after calls).perform c).2 :=
      List.foldl_concat ..
    rw [hafter]
    exact ih.perform c

theorem Tidy.ascending {t : PolicyTable} (h : t.Tidy) : t.rules.Pairwise fun r r' =>
    Utf8.bytes (ProcessName.lowered r.name) < Utf8.bytes (ProcessName.lowered r'.name) := by
  refine t.sorted.imp_of_mem fun {r r'} hr hr' hlt => ?_
  rw [Utf8.bytes_lt_iff, ← ProcessName.key_eq_lowered (h r hr),
    ← ProcessName.key_eq_lowered (h r' hr')]
  exact hlt

theorem nodup_rules (t : PolicyTable) : t.rules.Nodup := by
  refine t.sorted.imp fun {r r'} hlt he => ?_
  rw [he] at hlt
  exact String.lt_irrefl _ hlt

theorem get?_of_mem {t : PolicyTable} {r : Rule} (h : r ∈ t.rules) : t.get? r.name = some r :=
  (t.get?_eq_some_iff r.name r).2 ⟨h, rfl⟩

end PolicyTable

namespace RuleStore

/-- The keys that a store has are those that its rules compute of their own names. -/
def Keyed (s : RuleStore) : Prop :=
  ∀ key i, (key, i) ∈ s.index → ∃ r, s.cells[i]? = some r ∧
    ProcessName.trimmed r.name = r.name ∧ ProcessName.key r.name = key

namespace Represents
variable {s : RuleStore} {t : PolicyTable} (h : s.Represents t) (ht : t.Tidy)
include h ht

theorem keyed : s.Keyed := by
  intro key i hx
  obtain ⟨r, hr, hcell, hkey⟩ := h.mem_rules hx
  exact ⟨r, hcell, ht r hr, hkey⟩

theorem listed_eq : s.listed = t.rules := by
  have hfound : (s.index.filterMap (s.cells[·.2]?)).Perm t.rules := by
    have hsecond := h.filterMap Prod.snd
    simp only [List.filterMap_map, Function.comp_def, List.filterMap_some] at hsecond
    exact hsecond
  have hperm : s.listed.Perm t.rules := (List.mergeSort_perm _ _).trans hfound
  have hsorted : s.listed.Pairwise fun r r' =>
      Utf8.bytes (ProcessName.lowered r.name) ≤ Utf8.bytes (ProcessName.lowered r'.name) := by
    have hmerged : s.listed.Pairwise fun r r' =>
        decide (Utf8.bytes (ProcessName.lowered r.name) ≤
          Utf8.bytes (ProcessName.lowered r'.name)) = true := by
      apply List.pairwise_mergeSort
      · intro p q r hpq hqr
        exact decide_eq_true (List.le_trans (of_decide_eq_true hpq) (of_decide_eq_true hqr))
      · intro p q
        simpa using List.le_total _ _
    exact hmerged.imp of_decide_eq_true
  refine List.Perm.eq_of_pairwise ?_ hsorted (ht.ascending.imp List.le_of_lt) hperm
  -- no two rules of a table have the same name in small letters
  intro r r' hr hr' hle hge
  have hr := hperm.mem_iff.1 hr
  have hlowered : ProcessName.lowered r.name = ProcessName.lowered r'.name := by
    refine String.le_antisymm (String.not_lt.1 fun hlt => ?_) (String.not_lt.1 fun hlt => ?_)
    · exact hle (Utf8.bytes_lt_iff.2 hlt)
    · exact hge (Utf8.bytes_lt_iff.2 hlt)
  have hkey : ProcessName.key r.name = ProcessName.key r'.name := by
    rw [ProcessName.key_eq_lowered (ht r hr), ProcessName.key_eq_lowered (ht r' hr'), hlowered]
  have hfind := PolicyTable.get?_of_mem hr
  rw [t.get?_congr hkey, PolicyTable.get?_of_mem hr'] at hfind
  exact (Option.some.inj hfind).symm

end Represents

/-- What a store has come to in any calls, with its keys in any order, is listed in one way: every
rule once, under its own name, in the order of the names in small letters. What was found in it is
not changed by later calls. -/
theorem listed_of_reaches {calls : List PolicyCall} {s : RuleStore} (h : Reaches {} calls s) :
    s.Keyed ∧
    s.listed.Nodup ∧
    (∀ r, r ∈ s.listed ↔ ∃ key i, (key, i) ∈ s.index ∧ s.cells[i]? = some r) ∧
    s.listed.length = s.index.length ∧
    (s.listed.Pairwise fun r r' =>
      Utf8.bytes (ProcessName.lowered r.name) < Utf8.bytes (ProcessName.lowered r'.name)) ∧
    (∀ s' : RuleStore, Reaches {} calls s' → s'.listed = s.listed) ∧
    (∀ r ∈ s.listed, s.rule? r.name = some r) ∧
    (∀ q r, s.rule? q = some r →
      r ∈ s.listed ∧ ProcessName.key q = ProcessName.key r.name) ∧
    (∀ more s', s.Reaches more s' → ∀ (i : Nat) r, s.cells[i]? = some r →
      s'.cells[i]? = some r) ∧
    s.listed = (PolicyTable.empty.after calls).rules ∧
    (∀ q, s.rule? q = (PolicyTable.empty.after calls).get? q) ∧
    ∀ c, (s.perform c).1 = ((PolicyTable.empty.after calls).perform c).1 := by
  have ht := PolicyTable.tidy_after calls
  have hs := h.represents represents_empty
  have hlisted := hs.listed_eq ht
  refine ⟨hs.keyed ht, ?_, fun r => ?_, ?_, ?_, fun s' h' => ?_, fun r hr => ?_, fun q r hq => ?_,
    fun more s' hmore i r hr => hmore.cell_eq hr, hlisted, hs.rule?_eq, fun c => (hs.perform c).1⟩
  · rw [hlisted]
    exact PolicyTable.nodup_rules _
  · rw [hlisted]
    constructor
    · intro hr
      obtain ⟨i, hx, hcell⟩ := hs.mem_index hr
      exact ⟨r.key, i, hx, hcell⟩
    · rintro ⟨key, i, hx, hcell⟩
      obtain ⟨r', hr', hcell', -⟩ := hs.mem_rules hx
      obtain rfl : r' = r := Option.some.inj (hcell'.symm.trans hcell)
      exact hr'
  · rw [hlisted, hs.size_eq, PolicyTable.size]
  · rw [hlisted]
    exact ht.ascending
  · rw [hlisted, (h'.represents represents_empty).listed_eq ht]
  · rw [hs.rule?_eq]
    exact PolicyTable.get?_of_mem (hlisted ▸ hr)
  · rw [hs.rule?_eq] at hq
    rw [hlisted]
    obtain ⟨hr, hkey⟩ := (PolicyTable.get?_eq_some_iff _ q r).1 hq
    exact ⟨hr, hkey.symm⟩

theorem listed_of_swapped :
    let engine : Engine := {}
    let calls : List PolicyCall :=
      [⟨.exclude "  Zürich\t", engine⟩, ⟨.allow "ALPHA " "10.0.0.0/8", engine⟩,
        ⟨.dropDenied "zürich" "10.0.0.0/8", engine⟩,
          ⟨.deny "zÜRICH" "192.168.0.0/16", engine⟩]
    let s := after {} calls
    let swapped : RuleStore := { s with index := s.index.reverse }
    s.index = [("zürich", 2), ("alpha", 1)] ∧
      Reaches {} calls s ∧ Reaches {} calls swapped ∧ swapped.listed = s.listed ∧
      s.listed.map Rule.name = ["ALPHA", "Zürich"] ∧
        (s.rule? "ZüRICH ").map Rule.excluded = some true := by
  intro engine calls s swapped
  have hs : Reaches {} calls s := reaches_after {} calls
  have hswapped : Reaches {} calls swapped := hs.reordered s.index.reverse_perm.symm
  obtain ⟨-, -, -, -, -, hsame, -, -, -, hlisted, hfound, -⟩ := listed_of_reaches hs
  refine ⟨by decide +kernel, hs, hswapped, hsame swapped hswapped, ?_, ?_⟩
  · rw [hlisted]
    decide +kernel
  · rw [hfound]
    decide +kernel

end RuleStore
end SocksGateway
