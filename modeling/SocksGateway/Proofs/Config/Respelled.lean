import Mathlib.Data.List.Forall2
import SocksGateway.Config.Validation
import SocksGateway.Proofs.Policy.NameVariants

namespace SocksGateway

open ProcessName (Variant)

def ProxySettings.Respelled (s s' : ProxySettings) : Prop :=
  ∃ processes, List.Forall₂ Variant s.processes processes ∧ s' = { s with processes }

def RuleSettings.Respelled (s s' : RuleSettings) : Prop :=
  ∃ process, Variant s.process process ∧ s' = { s with process }

structure Config.Respelled (c c' : Config) : Prop where
  bypassLan : c'.bypassLan = c.bypassLan
  logging : c'.logging = c.logging
  excludes : List.Forall₂ Variant c.excludes c'.excludes
  proxies : List.Forall₂ ProxySettings.Respelled c.proxies c'.proxies
  rules : List.Forall₂ RuleSettings.Respelled c.rules c'.rules

def ProxySettings.plain (s : ProxySettings) : ProxySettings :=
  { s with processes := s.processes.map ProcessName.plain }

def RuleSettings.plain (s : RuleSettings) : RuleSettings :=
  { s with process := ProcessName.plain s.process }

def Config.plain (c : Config) : Config :=
  { c with
    excludes := c.excludes.map ProcessName.plain
    proxies := c.proxies.map ProxySettings.plain
    rules := c.rules.map RuleSettings.plain }

theorem map_eq_of_forall₂ {α β : Type} {R : α → α → Prop} {f : α → β}
    (hf : ∀ {a b}, R a b → f a = f b) {as bs : List α} (h : List.Forall₂ R as bs) :
    as.map f = bs.map f := by
  rw [← List.forall₂_eq_eq_eq]
  exact List.rel_map (fun _ _ hab => hf hab) h

theorem ProxySettings.Respelled.plain_eq {s s' : ProxySettings} (h : s.Respelled s') :
    s.plain = s'.plain := by
  obtain ⟨processes, hprocesses, rfl⟩ := h
  rw [plain, plain, map_eq_of_forall₂ (fun h => h.plain_eq) hprocesses]

theorem RuleSettings.Respelled.plain_eq {s s' : RuleSettings} (h : s.Respelled s') :
    s.plain = s'.plain := by
  obtain ⟨process, hprocess, rfl⟩ := h
  rw [plain, plain, hprocess.plain_eq]

namespace Config

theorem Respelled.plain_eq {c c' : Config} (h : c.Respelled c') : c.plain = c'.plain := by
  rw [plain, plain, map_eq_of_forall₂ (fun h => h.plain_eq) h.excludes,
    map_eq_of_forall₂ (fun h => h.plain_eq) h.proxies,
    map_eq_of_forall₂ (fun h => h.plain_eq) h.rules, ← h.bypassLan, ← h.logging]

theorem endpointFault_plain (c : Config) :
    c.plain.endpointFault = c.endpointFault.map ConfigFault.plain := by
  rw [endpointFault, plain, List.find?_map, Option.map_map, endpointFault, Option.map_map]
  rfl

theorem ruleFault_plain (r : RuleSettings) :
    ruleFault r.plain = (ruleFault r).map ConfigFault.plain := by
  rw [ruleFault, ruleFault, Option.map_map]
  rfl

theorem rangeFault_plain (c : Config) :
    c.plain.rangeFault = c.rangeFault.map ConfigFault.plain := by
  rw [rangeFault, plain, rangeFault]
  induction c.rules with
  | nil => rfl
  | cons r rules ih =>
    rw [List.map_cons, List.findSome?_cons, List.findSome?_cons, ruleFault_plain]
    cases ruleFault r with
    | none => exact ih
    | some fault => rfl

def plainAssociation (a : Nat × String) : Nat × String := (a.1, ProcessName.plain a.2)

theorem associations_plain (c : Config) :
    c.plain.associations = c.associations.map plainAssociation := by
  simp [associations, plain, List.zipIdx_map, List.flatMap_map,
    List.map_flatMap, ProxySettings.plain, Function.comp_def, plainAssociation]

theorem conflicts_plain (a b : Nat × String) :
    conflicts (plainAssociation a) (plainAssociation b) = conflicts a b := by
  simp [conflicts, plainAssociation]

theorem firstConflict_plain (before as : List (Nat × String)) :
    firstConflict (before.map plainAssociation) (as.map plainAssociation) =
      (firstConflict before as).map ProcessName.plain := by
  induction as generalizing before with
  | nil => rfl
  | cons a as ih =>
    have hany : (before.map plainAssociation).any (conflicts (plainAssociation a)) =
        before.any (conflicts a) := by
      simp [List.any_map, Function.comp_def, conflicts_plain]
    rw [List.map_cons, firstConflict, firstConflict, hany]
    split
    · rfl
    · exact ih (a :: before)

theorem conflict_plain (c : Config) :
    firstConflict [] c.plain.associations =
      (firstConflict [] c.associations).map ProcessName.plain := by
  rw [associations_plain]
  exact firstConflict_plain [] _

theorem fault_plain (c : Config) : c.plain.fault = c.fault.map ConfigFault.plain := by
  have hlimit : c.plain.limitFault = c.limitFault.map ConfigFault.plain := by
    show c.limitFault = _
    unfold limitFault
    split <;> rfl
  have hassociation : c.plain.associationFault = c.associationFault.map ConfigFault.plain := by
    rw [associationFault, conflict_plain, associationFault, Option.map_map, Option.map_map]
    rfl
  rw [fault, hlimit, endpointFault_plain, rangeFault_plain, hassociation, fault]
  simp only [Option.map_or]

theorem validate_plain (c : Config) : c.plain.validate = c.validate.mapError ConfigFault.plain := by
  rw [validate, fault_plain, validate]
  cases c.fault <;> rfl

variable {c c' : Config} (h : c.Respelled c')
include h

theorem Respelled.validate_eq :
    c.validate.mapError ConfigFault.plain = c'.validate.mapError ConfigFault.plain := by
  rw [← validate_plain, h.plain_eq, validate_plain]

theorem Respelled.conflict_eq : (firstConflict [] c.associations).map ProcessName.plain =
    (firstConflict [] c'.associations).map ProcessName.plain := by
  rw [← conflict_plain, h.plain_eq, conflict_plain]

end Config
end SocksGateway
