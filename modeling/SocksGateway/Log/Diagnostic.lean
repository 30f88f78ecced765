namespace SocksGateway

inductive Severity
  | debug
  | info
  | warn
  | error
deriving DecidableEq, Inhabited

def Severity.label : Severity → String
  | debug => "DEBUG"
  | info => "INFO"
  | warn => "WARN"
  | error => "ERROR"

/-- Who does a piece of work: a caller, or the worker that drains the log. -/
inductive Agent
  | caller
  | worker
deriving DecidableEq, Inhabited

structure Diagnostic where
  severity : Severity
  text : String
  agent : Agent := .caller
deriving DecidableEq, Inhabited

def Diagnostic.toText (d : Diagnostic) : String := d.severity.label ++ " " ++ d.text

instance : ToString Diagnostic := ⟨Diagnostic.toText⟩

end SocksGateway
