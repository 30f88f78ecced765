import SocksGateway.Proofs.Net.Arrivals
import SocksGateway.Proofs.Policy.Revision

/-!
Tables as products. The rule under a key is what the changes to the names with that key have made of
it; those to other names have no part in it, nor have those that failed.
-/
namespace SocksGateway

namespace RuleChange

def handle? : RuleChange → Option Handle
  | associate _ h => some h
  | _ => none

def excludes : RuleChange → Bool
  | exclude _ => true
  | _ => false

end RuleChange

def RangeSet.call? : RangeSet → RuleChange → Option SetCall
  | allowed, .allow _ range => (Network.ofRangeText? range).map .insert
  | allowed, .dropAllowed _ range => (Network.ofRangeText? range).map .erase
  | denied, .deny _ range => (Network.ofRangeText? range).map .insert
  | denied, .dropDenied _ range => (Network.ofRangeText? range).map .erase
  | _, _ => none

namespace Rule

def edit (r : Rule) (c : RuleChange) : Rule where
  name := r.name
  proxy := c.handle?.or r.proxy
  excluded := c.excludes || r.excluded
  allowed := r.allowed.after (RangeSet.allowed.call? c).toList
  denied := r.denied.after (RangeSet.denied.call? c).toList

theorem edit_of_revise {known : Handle → Bool} {c : RuleChange} {r s : Rule}
    (h : c.revise known r = .ok s) :
    s = r.edit c := by
  cases c with
  | associate p k =>
    rw [RuleChange.revise] at h
    split at h
    · cases h; rfl
    · cases h
  | exclude p => cases h; rfl
  | allow p range =>
    obtain ⟨n, hn, h⟩ := RuleChange.byRange_eq_ok h
    cases h
    simp only [edit, RangeSet.call?, hn]
    rfl
  | dropAllowed p range =>
    obtain ⟨n, hn, h⟩ := RuleChange.byRange_eq_ok h
    rw [RuleChange.without_eq_ok h]
    simp only [edit, RangeSet.call?, hn]
    rfl
  | deny p range =>
    obtain ⟨n, hn, h⟩ := RuleChange.byRange_eq_ok h
    cases h
    simp only [edit, RangeSet.call?, hn]
    rfl
  | dropDenied p range =>
    obtain ⟨n, hn, h⟩ := RuleChange.byRange_eq_ok h
    rw [RuleChange.without_eq_ok h]
    simp only [edit, RangeSet.call?, hn]
    rfl

/-- The machine under one key: a rule comes with the first change, and is named by it. -/
def made (changes : List RuleChange) : Option Rule :=
  changes.head?.map fun c => changes.foldl edit (ofName c.process)

theorem made_concat (changes : List RuleChange) (c : RuleChange) :
    made (changes ++ [c]) = some (((made changes).getD (ofName c.process)).edit c) := by
  cases changes <;> simp [made]

theorem of_edit (k : RangeSet) (r : Rule) (c : RuleChange) :
    k.of (r.edit c) = (k.of r).after (k.call? c).toList := by
  cases k <;> rfl

/-- A rule is as its changes would have it. -/
structure Fits (changes : List RuleChange) (r : Rule) : Prop where
  name : changes.head?.map (ProcessName.trimmed ·.process) = some r.name
  proxy : r.proxy = (changes.filterMap RuleChange.handle?).getLast?
  excluded : r.excluded = true ↔ ∃ p, .exclude p ∈ changes
  ranges : ∀ k : RangeSet, (k.of r).Fits (changes.filterMap k.call?)

section
variable (r : Rule) (changes : List RuleChange)

theorem name_edits : (changes.foldl edit r).name = r.name := by
  induction changes generalizing r with
  | nil => rfl
  | cons c changes ih => exact ih (r.edit c)

theorem proxy_edits :
    (changes.foldl edit r).proxy = (changes.filterMap RuleChange.handle?).getLast?.or r.proxy := by
  induction changes using List.reverseRecOn with
  | nil => rfl
  | append_singleton changes c ih =>
    rw [List.foldl_concat, edit, ih]
    cases h : c.handle? <;> simp [h]

theorem excluded_edits :
    (changes.foldl edit r).excluded = true ↔
      (∃ p, .exclude p ∈ changes) ∨ r.excluded = true := by
  induction changes generalizing r with
  | nil => simp
  | cons c changes ih =>
    rw [List.foldl_cons, ih, edit]
    cases c <;> simp [RuleChange.excludes]

theorem of_edits (k : RangeSet) :
    k.of (changes.foldl edit r) = (k.of r).after (changes.filterMap k.call?) := by
  induction changes generalizing r with
  | nil => rfl
  | cons c changes ih =>
    rw [List.foldl_cons, ih, of_edit, List.filterMap_cons]
    cases k.call? c <;> rfl

end

theorem fits_edits (c : RuleChange) (changes : List RuleChange) :
    ((c :: changes).foldl edit (ofName c.process)).Fits (c :: changes) where
  name := by rw [name_edits]; rfl
  proxy := by rw [proxy_edits]; exact Option.or_none
  excluded := by rw [excluded_edits]; exact or_iff_left Bool.false_ne_true
  ranges k := by
    rw [of_edits]
    cases k <;> exact NetworkSet.fits_after _

theorem Fits.unique {changes : List RuleChange} {r s : Rule} (hr : r.Fits changes)
    (hs : s.Fits changes) :
    r = s := by
  have hname : r.name = s.name := Option.some.inj (hr.name.symm.trans hs.name)
  have hproxy : r.proxy = s.proxy := hr.proxy.trans hs.proxy.symm
  have hexcluded : r.excluded = s.excluded := Bool.eq_iff_iff.2 (hr.excluded.trans hs.excluded.symm)
  have hallowed : r.allowed = s.allowed := (hr.ranges .allowed).unique (hs.ranges .allowed)
  have hdenied : r.denied = s.denied := (hr.ranges .denied).unique (hs.ranges .denied)
  cases r
  cases s
  simp_all

theorem made_eq_some_iff (changes : List RuleChange) (r : Rule) :
    made changes = some r ↔ r.Fits changes := by
  cases changes with
  | nil => exact iff_of_false nofun fun h => nomatch h.name
  | cons c changes =>
    constructor
    · intro h
      obtain rfl := Option.some.inj h
      exact fits_edits c changes
    · intro h
      exact congrArg some ((fits_edits c changes).unique h)

theorem made_eq_none_iff (changes : List RuleChange) : made changes = none ↔ changes = [] := by
  rw [made, Option.map_eq_none_iff, List.head?_eq_none_iff]

end Rule

/-- A call of a table, with the engine that it is made in: all but the table itself may differ from
call to call. -/
structure PolicyCall where
  change : RuleChange
  engine : Engine

namespace PolicyTable

def perform (t : PolicyTable) (c : PolicyCall) : Except GatewayError Unit × PolicyTable :=
  let r := ({ c.engine with policy := t } : Engine).change c.change
  (r.1, r.2.policy)

def after (t : PolicyTable) (calls : List PolicyCall) : PolicyTable :=
  calls.foldl (fun t c => (t.perform c).2) t

/-- A call succeeds, and is about the key of a name. -/
def changes (t : PolicyTable) (name : String) (c : PolicyCall) : Bool :=
  (t.perform c).1.isOk && ProcessName.key c.change.process = ProcessName.key name

def changesTo (t : PolicyTable) (name : String) : List PolicyCall → List RuleChange
  | [] => []
  | c :: calls =>
    (if t.changes name c then [c.change] else []) ++ (t.perform c).2.changesTo name calls

theorem changesTo_concat (t : PolicyTable) (name : String) (calls : List PolicyCall)
    (c : PolicyCall) :
    t.changesTo name (calls ++ [c]) =
      t.changesTo name calls ++ if (t.after calls).changes name c then [c.change] else [] := by
  induction calls generalizing t with
  | nil => exact List.append_nil _
  | cons d calls ih => rw [List.cons_append, changesTo, ih, changesTo, List.append_assoc]; rfl

theorem perform_cases (t : PolicyTable) (c : PolicyCall) :
    (∃ error, t.perform c = (.error error, t)) ∨
      t.perform c = (.ok (), t.put ((t.ruleFor c.change.process).edit c.change)) := by
  cases hr : ({ c.engine with policy := t } : Engine).revised c.change with
  | ok s =>
    obtain ⟨text, hc⟩ := Engine.change_of_revised_ok hr
    right
    rw [perform, hc, Rule.edit_of_revise hr]
    rfl
  | error error =>
    left
    rw [perform, Engine.change_of_revised_error hr]
    exact ⟨error, rfl⟩

theorem get?_perform (t : PolicyTable) (c : PolicyCall) (name : String) :
    (t.perform c).2.get? name =
      if t.changes name c then some ((t.ruleFor c.change.process).edit c.change)
      else t.get? name := by
  have hkey : ((t.ruleFor c.change.process).edit c.change).key = ProcessName.key c.change.process :=
    t.key_ruleFor c.change.process
  rcases t.perform_cases c with ⟨error, h⟩ | h
  · simp [changes, h, Except.isOk, Except.toBool]
  · rw [changes, h, get?_put, hkey]
    simp [Except.isOk, Except.toBool]

/-- Under every key a table is the machine that the changes under that key have driven. -/
theorem get?_after (calls : List PolicyCall) (name : String) :
    (empty.after calls).get? name = Rule.made (empty.changesTo name calls) := by
  induction calls using List.reverseRecOn with
  | nil => rfl
  | append_singleton calls c ih =>
    have hafter : empty.after (calls ++ [c]) = ((empty.after calls).perform c).2 :=
      List.foldl_concat ..
    rw [hafter, get?_perform, changesTo_concat]
    cases hc : (empty.after calls).changes name c with
    | false => simpa using ih
    | true =>
      have hkey : ProcessName.key c.change.process = ProcessName.key name := by
        simpa using (Bool.and_eq_true_iff.1 hc).2
      rw [if_pos rfl, if_pos rfl, Rule.made_concat, ← ih, ← get?_congr _ hkey]
      rfl

theorem changes_iff_of_exclude {t : PolicyTable} {name p : String} {c : PolicyCall}
    (h : c.change = .exclude p) :
    t.changes name c = true ↔ ProcessName.key p = ProcessName.key name := by
  have hok : (t.perform c).1 = .ok () := by rw [perform, h]; rfl
  rw [changes, hok, h]
  exact decide_eq_true_iff

theorem exclude_mem_changesTo (t : PolicyTable) (name : String) (calls : List PolicyCall) :
    (∃ p, .exclude p ∈ t.changesTo name calls) ↔
      ∃ c ∈ calls, ∃ p, c.change = .exclude p ∧
        ProcessName.key p = ProcessName.key name := by
  induction calls generalizing t with
  | nil => simp [changesTo]
  | cons c calls ih =>
    have hhead : (∃ p, .exclude p ∈ if t.changes name c then [c.change] else []) ↔
        ∃ p, c.change = .exclude p ∧ ProcessName.key p = ProcessName.key name := by
      refine exists_congr fun p => ?_
      constructor
      · intro hp
        split at hp
        next hc =>
          have he : c.change = .exclude p := (List.mem_singleton.1 hp).symm
          exact ⟨he, (changes_iff_of_exclude he).1 hc⟩
        next => cases hp
      · intro hp
        obtain ⟨he, hk⟩ := hp
        rw [if_pos ((changes_iff_of_exclude he).2 hk), he]
        exact List.mem_singleton_self _
    simp only [changesTo, List.mem_append, exists_or, hhead, ih, List.exists_mem_cons_iff]

theorem ruleFor_put_self {t : PolicyTable} {name : String} {rule : Rule}
    (h : rule.key = ProcessName.key name) : (t.put rule).ruleFor name = rule :=
  ruleFor_of_get? (by rw [get?_put, if_pos h])

theorem ruleFor_associate (t : PolicyTable) (name : String) (h : Handle) (e : Engine) :
    ∃ proxy, (t.perform ⟨.associate name h, e⟩).2.ruleFor name =
      { t.ruleFor name with proxy } := by
  rcases t.perform_cases ⟨.associate name h, e⟩ with ⟨error, hp⟩ | hp
  · rw [hp]
    exact ⟨(t.ruleFor name).proxy, rfl⟩
  · rw [hp]
    exact ⟨some h, ruleFor_put_self (t.key_ruleFor name)⟩

theorem ruleFor_exclude (t : PolicyTable) (name : String) (e : Engine) :
    (t.perform ⟨.exclude name, e⟩).2.ruleFor name = { t.ruleFor name with excluded := true } :=
  ruleFor_put_self (t.key_ruleFor name)

/-- What a run makes of the rule under a key, told by the calls that were made under it; and what
single calls leave as it is. -/
theorem rule_of_history (calls : List PolicyCall) (name : String) :
    let t := empty.after calls
    let made := empty.changesTo name calls
    (t.get? name = none ↔ made = []) ∧
    (∀ r, t.get? name = some r ↔ r.Fits made) ∧
    (∀ r, t.get? name = some r → (r.excluded = true ↔
      ∃ c ∈ calls, ∃ p, c.change = .exclude p ∧
        ProcessName.key p = ProcessName.key name)) ∧
    (∀ c : PolicyCall, ProcessName.key c.change.process ≠ ProcessName.key name →
      (t.perform c).2.get? name = t.get? name) ∧
    (∀ h e, ∃ proxy, (t.perform ⟨.associate name h, e⟩).2.ruleFor name =
      { t.ruleFor name with proxy }) ∧
    ∀ e, (t.perform ⟨.exclude name, e⟩).2.ruleFor name =
      { t.ruleFor name with excluded := true } := by
  intro t made
  have hget : t.get? name = Rule.made made := get?_after calls name
  have hfits : ∀ r, t.get? name = some r ↔ r.Fits made := by
    rw [hget]
    exact Rule.made_eq_some_iff made
  refine ⟨?_, hfits, fun r hr => ?_, fun c hc => ?_, t.ruleFor_associate name,
    t.ruleFor_exclude name⟩
  · rw [hget, Rule.made_eq_none_iff]
  · exact ((hfits r).1 hr).excluded.trans (empty.exclude_mem_changesTo name calls)
  · have hno : t.changes name c = false := by rw [changes, decide_eq_false hc, Bool.and_false]
    rw [get?_perform, hno]
    rfl

end PolicyTable
end SocksGateway
