import SocksGateway.Log.Diagnostic
import SocksGateway.Log.Entry
import SocksGateway.Log.Sink
import SocksGateway.Text.Description

/-!
Mirrors: copies of the event log, one line for each entry. The third failure in a row switches a
mirror off; the first of a row is reported.
-/
namespace SocksGateway

structure Mirror where
  sink : Sink
  failures : Nat := 0
  disabled : Bool := false
deriving DecidableEq, Inhabited

namespace Mirror

/-- Failures in a row that switch a mirror off. -/
def patience : Nat := 3

structure Outcome where
  mirror : Mirror
  files : FileTree
  diagnostics : List Diagnostic := []

def ofDevice (d : Device) : Mirror := ⟨.device d, 0, false⟩

def openFile (files : FileTree) (path : String) : Except FileError Outcome := do
  let (key, files) ← files.openAppend path
  .ok ⟨⟨.file ⟨path, key, #[]⟩, 0, false⟩, files,
    [⟨.debug, "Log mirror opened at " ++ Quoted.string path, .caller⟩]⟩

def pathText (m : Mirror) : String := Description.option (m.sink.path?.map Quoted.string)

def description (m : Mirror) : String :=
  Description.record "LogMirror" [("path", m.pathText), ("disabled", Description.bool m.disabled)]

def streakText (m : Mirror) (reason : String) : String :=
  "Log mirror " ++ m.pathText ++ ": log mirror write failed: " ++ reason

def disabledText (m : Mirror) (failures : Nat) : String :=
  "Log mirror " ++ m.pathText ++ " disabled after " ++ toString failures ++ " consecutive failures"

/-- A success ends the row of failures. -/
def track (m : Mirror) (failure : Option String) : Mirror × List Diagnostic :=
  match failure with
  | none => ({ m with failures := 0 }, [])
  | some reason =>
    let failures := m.failures + 1
    let off := patience ≤ failures && !m.disabled
    ({ m with failures, disabled := m.disabled || patience ≤ failures },
      (if failures = 1 then [⟨.error, m.streakText reason, .caller⟩] else []) ++
        (if off then [⟨.error, m.disabledText failures, .caller⟩] else []))

/-- A mirror that is switched off does nothing. -/
def perform (m : Mirror) (files : FileTree)
    (act : Sink → FileTree → (Sink × FileTree) × Option String) : Outcome :=
  if m.disabled then ⟨m, files, []⟩
  else
    let ((sink, files), failure) := act m.sink files
    let (m, diagnostics) := { m with sink }.track failure
    ⟨m, files, diagnostics⟩

def record (m : Mirror) (files : FileTree) (e : Entry) : Outcome :=
  m.perform files fun sink files => sink.write files e.lineBytes

def flush (m : Mirror) (files : FileTree) : Outcome := m.perform files Sink.flush

def close (m : Mirror) (files : FileTree) : FileTree := m.sink.close files

@[simp] theorem perform_of_disabled {m : Mirror} (h : m.disabled = true) (files : FileTree)
    (act : Sink → FileTree → (Sink × FileTree) × Option String) :
    m.perform files act = ⟨m, files, []⟩ := by
  simp [perform, h]

theorem failures_track (m : Mirror) (failure : Option String) :
    (m.track failure).1.failures = if failure.isSome then m.failures + 1 else 0 := by
  cases failure <;> rfl

end Mirror
end SocksGateway
