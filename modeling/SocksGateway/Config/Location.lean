import SocksGateway.Config.Schema
import SocksGateway.Files.FileTree
import SocksGateway.Toml.Document

namespace SocksGateway

structure Environment where
  configFile : Option String := none
  configHome : Option String := none
  home : Option String := none
deriving DecidableEq, Inhabited

namespace Environment

/-- A path below another, which may be empty or end in a slash. -/
def below (base path : String) : String :=
  if base = "" ∨ base.endsWith "/" then base ++ path else base ++ "/" ++ path

def configPath (e : Environment) : String :=
  match e.configFile, e.configHome, e.home with
  | some file, _, _ => file
  | none, some dir, _ => below dir "socksify/config.toml"
  | none, none, some dir => below dir ".config/socksify/config.toml"
  | none, none, none => "socksify.toml"

end Environment

inductive ConfigError
  | unreadable (path : String) (error : FileError)
  | notToml
  | mismatch (error : SchemaError)
deriving DecidableEq, Inhabited

namespace ConfigError

def message : ConfigError → String
  | unreadable path error => "Failed to load config from " ++ path ++ ": " ++ error.message
  | notToml => "Failed to parse config: not a TOML document"
  | mismatch error => "Failed to parse config: " ++ error.message

end ConfigError

namespace Config

def ofToml (document : String) : Except ConfigError Config :=
  match Toml.read document with
  | none => .error .notToml
  | some v => match ofValue v with
    | .ok c => .ok c
    | .error e => .error (.mismatch e)

def ofFile (files : FileTree) (path : String) : Except ConfigError Config :=
  match files.readText path with
  | .ok document => ofToml document
  | .error e => .error (.unreadable path e)

/-- A path that is given has to lead to a file; without one, and without a file in the usual place,
there are the defaults. -/
def load (files : FileTree) (env : Environment) (path : Option String) :
    Except ConfigError Config :=
  match path with
  | some path => ofFile files path
  | none => if files.exists? env.configPath then ofFile files env.configPath else .ok {}

end Config
end SocksGateway
