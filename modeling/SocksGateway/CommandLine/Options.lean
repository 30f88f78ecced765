import SocksGateway.Net.EndpointText
import SocksGateway.Proxy.Protocol

/-!
The words of a command line: options, a command, and the command's own options. An option may be
given once before the command and once after it, where the command takes it; the later one counts.
-/
namespace SocksGateway.CommandLine

inductive Flag
  | config
  | verbose
  | process
  | destination
  | protocol
deriving DecidableEq, Inhabited

namespace Flag

def name : Flag → String
  | config => "config"
  | verbose => "verbose"
  | process => "process"
  | destination => "destination"
  | protocol => "protocol"

def letter? : Flag → Option Char
  | config => some 'c'
  | verbose => some 'v'
  | process => some 'p'
  | destination => some 'd'
  | protocol => none

def takesValue (f : Flag) : Bool := f != verbose

/-- The only value that must not be empty is a path. -/
def admits (f : Flag) (value : String) : Bool := f != config || value != ""

end Flag

abbrev Given := List (Flag × String)

namespace Given

/-- No option is given twice. -/
def put (g : Given) (f : Flag) (value : String) : Option Given :=
  if (g.lookup f).isNone && f.admits value then some ((f, value) :: g) else none

/-- What one word came to: the options given by then, and the option whose value has to follow. -/
abbrev Progress := Given × Option Flag

def byName (known : List Flag) (g : Given) (word : String) : Option Progress := do
  let cs := word.toList
  let name := String.ofList (cs.takeWhile (· != '='))
  let f ← known.find? (·.name = name)
  match cs.dropWhile (· != '=') with
  | [] => if f.takesValue then some (g, some f) else some (← g.put f "", none)
  | _ :: value => if f.takesValue then some (← g.put f (String.ofList value), none) else none

/-- Letters in one word; the first that takes a value takes the rest of the word, or the next
word. -/
def byLetters (known : List Flag) (g : Given) : List Char → Option Progress
  | [] => some (g, none)
  | c :: cs => do
    let f ← known.find? (·.letter? = some c)
    if !f.takesValue then byLetters known (← g.put f "") cs
    else match cs with
      | [] => some (g, some f)
      | '=' :: value => some (← g.put f (String.ofList value), none)
      | value => some (← g.put f (String.ofList value), none)

/-- The options in front, and the words after them, from a command or a double dash on. -/
def read (known : List Flag) (g : Given) (awaiting : Option Flag) :
    List String → Option (Given × List String)
  | [] => if awaiting.isSome then none else some (g, [])
  | word :: words =>
    match awaiting, word.toList with
    | some f, cs =>
      if cs.head? = some '-' ∧ cs ≠ ['-'] then none
      else do read known (← g.put f word) none words
    | none, ['-', '-'] => some (g, word :: words)
    | none, ['-'] => some (g, word :: words)
    | none, '-' :: '-' :: cs => do
      let (g, awaiting) ← byName known g (String.ofList cs)
      read known g awaiting words
    | none, '-' :: cs => do
      let (g, awaiting) ← byLetters known g cs
      read known g awaiting words
    | none, _ => some (g, word :: words)

end Given

inductive Command
  | run
  | check (process : String) (destination : Endpoint) (protocol : Protocol)
deriving DecidableEq, Inhabited

structure Invocation where
  config : Option String
  verbose : Bool
  command : Command
deriving DecidableEq, Inhabited

def everywhere : List Flag := [.config, .verbose]

def alone (known : List Flag) (words : List String) : Option Given :=
  match Given.read known [] none words with
  | some (g, []) => some g
  | some (g, ["--"]) => some g
  | _ => none

def command (name : String) (words : List String) : Option (Command × Given) :=
  match name with
  | "run" => do some (.run, ← alone everywhere words)
  | "check" => do
    let g ← alone (everywhere ++ [.process, .destination, .protocol]) words
    let process ← g.lookup .process
    let destination ← Endpoint.ofText? (← g.lookup .destination)
    let protocol ← (Protocol.ofText ((g.lookup .protocol).getD "tcp")).toOption
    some (.check process destination protocol, g)
  | _ => none

/-- What a command line asks for; nothing if it is misused. -/
def parse (words : List String) : Option Invocation := do
  let (g, rest) ← Given.read everywhere [] none words
  match rest with
  | [] => none
  | name :: words =>
    let (command, inner) ← command name words
    some ⟨(inner.lookup .config).or (g.lookup .config),
      (inner.lookup .verbose).isSome || (g.lookup .verbose).isSome, command⟩

end SocksGateway.CommandLine
