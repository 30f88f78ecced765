import SocksGateway.CommandLine.Outcome

namespace SocksGateway.Program

def usage : String :=
  "usage: socksify [-c PATH] [-v] run\n" ++
    "       socksify [-c PATH] [-v] check -p NAME -d ADDRESS:PORT [--protocol tcp|udp]\n"

def isDirectory (path : String) : IO Bool := do
  try
    let _ ← IO.FS.Handle.mk (path ++ "/.") .read
    return true
  catch _ => return false

def nodeAt (path : String) : IO (Option FileNode) := do
  if ← isDirectory path then return some .directory
  try
    let bytes ← IO.FS.readBinFile path
    return some (.file bytes.data)
  catch _ => return none

def stations (path : String) : List String :=
  let parts := path.splitOn "/"
  (List.range parts.length).map fun n => "/".intercalate (parts.take (n + 1))

def look (files : FileTree) (path : String) : IO FileTree :=
  (stations path).foldlM (fun files station => do
    match ← nodeAt station with
    | some node => return files.add station node
    | none => return files) files

def environment : IO Environment :=
  return ⟨← IO.getEnv "SOCKSIFY_CONFIG", ← IO.getEnv "XDG_CONFIG_HOME",
    ← IO.getEnv "HOME"⟩

def mirrorPath (files : FileTree) (env : Environment) (i : CommandLine.Invocation) :
    Option String :=
  match Config.load files env i.config with
  | .ok c => c.logging.mirror
  | .error _ => none

def save (files : FileTree) (path : Option String) : IO Unit := do
  match path with
  | none => return
  | some path =>
    match files.read path with
    | .ok content => IO.FS.writeBinFile path ⟨content⟩
    | .error _ => return

def serve (g : Gateway) : IO Gateway := do
  let (_, g) := g.start
  let _ ← (← IO.getStdin).getLine
  return g.finish

end SocksGateway.Program

open SocksGateway in
def main (words : List String) : IO UInt32 := do
  let env ← Program.environment
  match CommandLine.parse words with
  | none =>
    IO.eprint Program.usage
    return 2
  | some i =>
    let files ← Program.look {} (i.config.getD env.configPath)
    let mirror := Program.mirrorPath files env i
    let files ← match mirror with
      | some path => Program.look files path
      | none => pure files
    let outcome := CommandLine.perform files env i
    match outcome with
    | .printed _ after => Program.save after mirror
    | .serving g => Program.save (← Program.serve g).log.files mirror
    | _ => pure ()
    IO.print outcome.stdout
    IO.eprint outcome.stderr
    return outcome.exitCode.toUInt32
