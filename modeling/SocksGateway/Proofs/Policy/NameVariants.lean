import Mathlib.Data.List.TakeWhile
import SocksGateway.Proofs.Policy.Revision
import SocksGateway.Proofs.Text.AsciiCase

/-!
Names that differ in the case of the letters A to Z and in the blanks around them. Every table takes
such names for the same. It does to one of them what it would do to the other, and but for the names
that it keeps, it is left the same.
-/
namespace SocksGateway

namespace Blank

variable {front back : List Char} (hfront : ∀ c ∈ front, isBlank c = true)
  (hback : ∀ c ∈ back, isBlank c = true)

include hback in
theorem trimEnd_append (core : List Char) : trimEnd (core ++ back) = trimEnd core := by
  have hreverse : ∀ c ∈ back.reverse, isBlank c = true := by simpa using hback
  rw [trimEnd, trimStart, List.reverse_append,
    List.dropWhile_append_of_pos hreverse, trimEnd, trimStart]

include hfront hback in
theorem trim_padded (core : List Char) : trim (front ++ core ++ back) = trim core := by
  have hstart : trimStart (front ++ core ++ back) = trimStart (core ++ back) := by
    rw [trimStart, List.append_assoc, List.dropWhile_append_of_pos hfront, trimStart]
  rw [trim, hstart, trimStart, List.dropWhile_append]
  split
  next hempty =>
    have hnone : back.dropWhile isBlank = [] := List.dropWhile_eq_nil_iff.2 hback
    rw [hnone, trim, trimStart, List.isEmpty_iff.1 hempty]
  next => exact trimEnd_append hback _

theorem exists_padding (cs : List Char) :
    ∃ front back, (∀ c ∈ front ++ back, isBlank c = true) ∧
    cs = front ++ trim cs ++ back := by
  let rest := trimStart cs
  refine ⟨cs.takeWhile isBlank, (rest.reverse.takeWhile isBlank).reverse, ?_, ?_⟩
  · intro c hc
    rcases List.mem_append.1 hc with hc | hc
    · exact List.mem_takeWhile_imp hc
    · exact List.mem_takeWhile_imp (List.mem_reverse.1 hc)
  · have hrest : rest = trim cs ++ (rest.reverse.takeWhile isBlank).reverse := by
      rw [trim, trimEnd, ← List.reverse_append, trimStart,
        List.takeWhile_append_dropWhile, List.reverse_reverse]
    rw [List.append_assoc, ← hrest]
    exact List.takeWhile_append_dropWhile.symm

end Blank

namespace LowerCase

theorem asciiChar_asciiChar (c : Char) : asciiChar (asciiChar c) = asciiChar c :=
  eq_of_asciiChar (by decide +kernel) c

theorem ascii_ascii (cs : List Char) : ascii (ascii cs) = ascii cs := by
  simp [ascii, asciiChar_asciiChar]

end LowerCase

namespace ProcessName

/-- The name with blanks around it. -/
def Padded (core name : String) : Prop :=
  ∃ front back : String, (∀ c ∈ front.toList ++ back.toList, Blank.isBlank c = true) ∧
    name = front ++ core ++ back

/-- The names are the same but for the blanks around them and for the case of letters A to Z. -/
def Variant (p q : String) : Prop :=
  ∃ core core', Padded core p ∧ Padded core' q ∧ SameLetters core core'

/-- The one of the variants of a name that is in small letters A to Z and has no blanks around
it. -/
def plain (name : String) : String := String.ofList (LowerCase.ascii (Blank.trim name.toList))

theorem toList_plain (name : String) :
    (plain name).toList = LowerCase.ascii (Blank.trim name.toList) := by
  rw [plain, String.toList_ofList]

theorem plain_of_padded {core name : String} (h : Padded core name) : plain name = plain core := by
  obtain ⟨front, back, hblank, rfl⟩ := h
  obtain ⟨hfront, hback⟩ := List.forall_mem_append.1 hblank
  rw [plain, String.toList_append, String.toList_append, Blank.trim_padded hfront hback, plain]

theorem plain_of_sameLetters {p q : String} (h : SameLetters p q) : plain p = plain q := by
  rw [plain, plain, ← LowerCase.trim_ascii, ← LowerCase.trim_ascii, h]

theorem padded_trimmed (name : String) : Padded (trimmed name) name := by
  obtain ⟨front, back, hblank, hname⟩ := Blank.exists_padding name.toList
  refine ⟨String.ofList front, String.ofList back, by simpa using hblank, ?_⟩
  rw [trimmed, ← String.ofList_append, ← String.ofList_append, ← hname, String.ofList_toList]

theorem variant_iff (p q : String) : Variant p q ↔ plain p = plain q := by
  constructor
  · rintro ⟨core, core', hp, hq, hletters⟩
    rw [plain_of_padded hp, plain_of_padded hq, plain_of_sameLetters hletters]
  · intro h
    refine ⟨trimmed p, trimmed q, padded_trimmed p, padded_trimmed q, ?_⟩
    have hlist := congrArg String.toList h
    rw [toList_plain, toList_plain] at hlist
    simpa [SameLetters, trimmed] using hlist

@[simp] theorem key_plain (name : String) : key (plain name) = key name := by
  have hletters : SameLetters (plain name) (trimmed name) := by
    simp [SameLetters, toList_plain, trimmed, LowerCase.ascii_ascii]
  rw [key_of_sameLetters hletters, key_trimmed]

theorem Variant.plain_eq {p q : String} (h : Variant p q) : plain p = plain q :=
  (variant_iff p q).1 h

theorem Variant.key_eq {p q : String} (h : Variant p q) : key p = key q := by
  rw [← key_plain p, h.plain_eq, key_plain]

theorem trimmed_plain (name : String) : trimmed (plain name) = plain (trimmed name) := by
  rw [trimmed, toList_plain, LowerCase.trim_ascii, Blank.trim_trim, plain,
    trimmed, String.toList_ofList, Blank.trim_trim]

end ProcessName

namespace Rule

def plain (r : Rule) : Rule := { r with name := ProcessName.plain r.name }

@[simp] theorem key_plain (r : Rule) : r.plain.key = r.key := ProcessName.key_plain r.name

theorem ofName_plain (name : String) : ofName (ProcessName.plain name) = (ofName name).plain := by
  simp [ofName, plain, ProcessName.trimmed_plain]

theorem place_plain (rule : Rule) (rs : List Rule) :
    (rule.place rs).map plain = rule.plain.place (rs.map plain) := by
  induction rs with
  | nil => rfl
  | cons r rs ih =>
    simp only [place, List.map_cons, key_plain]
    split
    · rfl
    · split
      · rw [List.map_cons, ih]
      · rfl

end Rule

namespace PolicyTable

def plain (t : PolicyTable) : PolicyTable where
  rules := t.rules.map Rule.plain
  sorted := by simpa [List.pairwise_map] using t.sorted

theorem get?_plain (t : PolicyTable) (name : String) :
    t.plain.get? (ProcessName.plain name) = (t.get? name).map Rule.plain := by
  have hsame : (fun r : Rule => decide (r.key = ProcessName.key name)) ∘ Rule.plain =
      fun r : Rule => decide (r.key = ProcessName.key name) := by
    funext r
    rw [Function.comp, Rule.key_plain]
  rw [get?, get?, plain, List.find?_map, ProcessName.key_plain, hsame]

theorem put_plain (t : PolicyTable) (rule : Rule) :
    (t.put rule).plain = t.plain.put rule.plain := by
  simp [plain, put, Rule.place_plain]

theorem ruleFor_plain (t : PolicyTable) (name : String) :
    t.plain.ruleFor (ProcessName.plain name) = (t.ruleFor name).plain := by
  rw [ruleFor, ruleFor, get?_plain, Rule.ofName_plain, Option.getD_map]

end PolicyTable

def ConfigFault.plain : ConfigFault → ConfigFault
  | invalidRange range process => invalidRange range (ProcessName.plain process)
  | conflictingAssociation process => conflictingAssociation (ProcessName.plain process)
  | fault => fault

def GatewayError.plain : GatewayError → GatewayError
  | rangeNotFound range process => rangeNotFound range (ProcessName.plain process)
  | invalidConfig fault => invalidConfig fault.plain
  | error => error

namespace RuleChange

def named (process : String) : RuleChange → RuleChange
  | associate _ h => associate process h
  | exclude _ => exclude process
  | allow _ range => allow process range
  | dropAllowed _ range => dropAllowed process range
  | deny _ range => deny process range
  | dropDenied _ range => dropDenied process range

structure Respelled (c c' : RuleChange) : Prop where
  process : ProcessName.Variant c.process c'.process
  rest : c' = c.named c'.process

def plain (c : RuleChange) : RuleChange := c.named (ProcessName.plain c.process)

theorem Respelled.plain_eq {c c' : RuleChange} (h : c.Respelled c') : c.plain = c'.plain := by
  obtain ⟨hprocess, hrest⟩ := h
  rw [plain, plain, hprocess.plain_eq]
  rw [hrest]
  cases c <;> rfl

theorem process_plain (c : RuleChange) : c.plain.process = ProcessName.plain c.process := by
  cases c <;> rfl

theorem byRange_plain (range : String) (f g : Network → Except GatewayError Rule)
    (h : ∀ n, g n = ((f n).map Rule.plain).mapError GatewayError.plain) :
    byRange range g = ((byRange range f).map Rule.plain).mapError GatewayError.plain := by
  unfold byRange
  cases Network.ofRangeText? range with
  | none => rfl
  | some n => exact h n

theorem without_plain {f g : NetworkSet → Rule} (h : ∀ s, g s = (f s).plain) (s : NetworkSet)
    (n : Network) (process : String) : without s n (ProcessName.plain process) g =
      ((without s n process f).map Rule.plain).mapError GatewayError.plain := by
  unfold without
  rw [h]
  split <;> rfl

theorem revise_plain (known : Handle → Bool) (c : RuleChange) (r : Rule) :
    c.plain.revise known r.plain =
      ((c.revise known r).map Rule.plain).mapError GatewayError.plain := by
  cases c with
  | associate p h =>
    simp only [plain, named, process, revise]
    split <;> rfl
  | exclude p => rfl
  | allow p range =>
    simp only [plain, named, process, revise]
    exact byRange_plain range _ _ fun n => rfl
  | dropAllowed p range =>
    simp only [plain, named, process, revise]
    refine byRange_plain range _ _ fun n => ?_
    exact without_plain (f := ({ r with allowed := · }))
      (g := ({ r.plain with allowed := · })) (fun s => rfl) _ n p
  | deny p range =>
    simp only [plain, named, process, revise]
    exact byRange_plain range _ _ fun n => rfl
  | dropDenied p range =>
    simp only [plain, named, process, revise]
    refine byRange_plain range _ _ fun n => ?_
    exact without_plain (f := ({ r with denied := · }))
      (g := ({ r.plain with denied := · })) (fun s => rfl) _ n p

end RuleChange
end SocksGateway
