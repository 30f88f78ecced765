import SocksGateway.Text.UnknownName

namespace SocksGateway

inductive Level
  | error
  | warning
  | info
  | debug
  | all
deriving DecidableEq

namespace Level

instance : Inhabited Level := ⟨info⟩

def number : Level → Nat
  | error => 0
  | warning => 1
  | info => 2
  | debug => 3
  | all => 4

def name : Level → String
  | error => "error"
  | warning => "warning"
  | info => "info"
  | debug => "debug"
  | all => "all"

instance : ToString Level := ⟨name⟩

def label : Level → String
  | error => "Error"
  | warning => "Warning"
  | info => "Info"
  | debug => "Debug"
  | all => "All"

def ofName? : String → Option Level
  | "error" => some error
  | "warning" => some warning
  | "info" => some info
  | "debug" => some debug
  | "all" => some all
  | _ => none

def names : List String := [error, warning, info, debug, all].map name

/-- Any mix of ASCII cases, and a short form of one name. -/
def ofText (text : String) : Except UnknownName Level :=
  match asciiLower text with
  | "warn" => .ok warning
  | other => match ofName? other with
    | some level => .ok level
    | none => .error ⟨"log level", other⟩

def allows (threshold level : Level) : Bool := level.number ≤ threshold.number

theorem ofName?_name (l : Level) : ofName? l.name = some l := by cases l <;> rfl

@[simp] theorem allows_all (l : Level) : all.allows l = true := by cases l <;> rfl

@[simp] theorem allows_self (l : Level) : l.allows l = true := by cases l <;> rfl

theorem allows_trans {a b c : Level} (h : a.allows b = true) (h' : b.allows c = true) :
    a.allows c = true := by
  simp only [allows, decide_eq_true_eq] at *
  omega

end Level
end SocksGateway
