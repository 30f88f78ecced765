import SocksGateway.CommandLine.Options
import SocksGateway.Config.Location
import SocksGateway.Gateway.Configured

namespace SocksGateway

def ConfigError.causes (e : ConfigError) : List String :=
  match e with
  | .unreadable _ cause => [e.message, cause.message]
  | .notToml => [e.message]
  | .mismatch cause => [e.message, cause.message]

def GatewayError.causes (e : GatewayError) : List String :=
  match e with
  | .invalidConfig fault => [e.message, fault.message]
  | .file cause => [e.message, cause.message]
  | _ => [e.message]

namespace CommandLine

inductive Failure
  | config (error : ConfigError)
  | gateway (error : GatewayError)
deriving DecidableEq, Inhabited

namespace Failure

def headline : Failure → String
  | config _ => "Failed to load config"
  | gateway _ => "Invalid configuration"

def causes : Failure → List String
  | config e => e.causes
  | gateway e => e.causes

def indented (first rest text : String) : String :=
  first ++ ("\n" ++ rest).intercalate (text.splitOn "\n")

/-- A cause with its number, which is five places wide. -/
def numbered (cause : String × Nat) : String :=
  let n := toString cause.2
  indented (String.ofList (List.replicate (5 - n.length) ' ') ++ n ++ ": ") "       " cause.1

/-- Causes have numbers if there is more than one. -/
def report (f : Failure) : String :=
  let causes := match f.causes with
    | [] => []
    | [cause] => [indented "    " "    " cause]
    | causes => causes.zipIdx.map numbered
  "Error: " ++ f.headline ++
    (if causes.isEmpty then "" else "\n\nCaused by:\n" ++ "\n".intercalate causes) ++ "\n"

end Failure

/-- A text is printed with the files as they are then; a gateway is about to be started. -/
inductive Outcome
  | printed (text : String) (files : FileTree)
  | failed (failure : Failure)
  | misused
  | serving (gateway : Gateway)

namespace Outcome

def exitCode : Outcome → Nat
  | printed _ _ => 0
  | failed _ => 1
  | misused => 2
  | serving _ => 0

def stdout : Outcome → String
  | printed text _ => text
  | _ => ""

def stderr : Outcome → String
  | failed f => f.report
  | _ => ""

end Outcome

def answer (g : Gateway) (process : String) (destination : Endpoint) (protocol : Protocol) :
    Outcome :=
  let (d, g) := g.withEngine (g.toEngine.decide process destination protocol)
  .printed (d.toText ++ "\n") g.finish.log.files

def perform (files : FileTree) (env : Environment) (i : Invocation) : Outcome :=
  match Config.load files env i.config with
  | .error e => .failed (.config e)
  | .ok c =>
    match Gateway.ofConfig c .accepting files, i.command with
    | .error e, _ => .failed (.gateway e)
    | .ok g, .run => .serving g
    | .ok g, .check process destination protocol => answer g process destination protocol

def run (files : FileTree) (env : Environment) (words : List String) : Outcome :=
  match parse words with
  | none => .misused
  | some i => perform files env i

end CommandLine
end SocksGateway
