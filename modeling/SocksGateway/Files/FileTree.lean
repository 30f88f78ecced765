/-!
File trees: what lies around a working directory, how a path finds it, and why a path may fail to. A
name in a path has at most 255 bytes and a path fewer than 4096.
-/
namespace SocksGateway

inductive FileError
  | notFound
  | notDirectory
  | isDirectory
  | nameTooLong
  | nulByte
  | notText
deriving DecidableEq, Inhabited

def FileError.message : FileError → String
  | notFound => "No such file or directory (os error 2)"
  | notDirectory => "Not a directory (os error 20)"
  | isDirectory => "Is a directory (os error 21)"
  | nameTooLong => "File name too long (os error 36)"
  | nulByte => "file name contained an unexpected NUL byte"
  | notText => "stream did not contain valid UTF-8"

inductive FileNode
  | file (content : Array UInt8)
  | directory
deriving DecidableEq, Inhabited

/-- The names on the way from the working directory. A way up to the directories above it stands in
front as dots, the way from the root as a slash. -/
abbrev FileKey := List String

namespace FileKey

/-- The working directory, those above it, and the root are there whatever a tree holds. -/
def isFixed (key : FileKey) : Bool := key.all fun name => name == ".." || name == "/"

/-- The root is its own parent. -/
def parent (key : FileKey) : FileKey :=
  if key = ["/"] then key else if key.isFixed then key ++ [".."] else key.dropLast

end FileKey

structure FileTree where
  nodes : List (FileKey × FileNode) := []
deriving DecidableEq, Inhabited

namespace FileTree

def get? (t : FileTree) (key : FileKey) : Option FileNode :=
  if key.isFixed then some .directory else t.nodes.lookup key

def put (t : FileTree) (key : FileKey) (node : FileNode) : FileTree :=
  ⟨(key, node) :: t.nodes.filter (·.1 != key)⟩

def names (path : String) : List String := (path.splitOn "/").filter (· != "")

def origin (path : String) : FileKey := if path.startsWith "/" then ["/"] else []

/-- The end of a way, and a directory wherever there was nothing on it. -/
def makeWay (t : FileTree) (key : FileKey) : List String → FileTree × FileKey
  | [] => (t, key)
  | c :: cs =>
    if c = "." then t.makeWay key cs
    else if c = ".." then t.makeWay key.parent cs
    else
      let next := key ++ [c]
      (if (t.get? next).isNone then t.put next .directory else t).makeWay next cs

/-- Puts a node, and directories on the way to it where there is nothing yet. -/
def add (t : FileTree) (path : String) (node : FileNode) : FileTree :=
  match node with
  | .directory => (t.makeWay (origin path) (names path)).1
  | .file _ =>
    let (t, key) := t.makeWay (origin path) (names path).dropLast
    t.put (key ++ (names path).getLast?.toList) node

def walk (t : FileTree) : FileKey → List String → Except FileError FileKey
  | key, [] => .ok key
  | key, c :: cs =>
    match t.get? key with
    | none => .error .notFound
    | some (.file _) => .error .notDirectory
    | some .directory =>
      if c = "." then t.walk key cs
      else if c = ".." then t.walk key.parent cs
      else if 255 < c.utf8ByteSize then .error .nameTooLong
      else t.walk (key ++ [c]) cs

def names? (path : String) : Except FileError (List String) :=
  if path.contains '\x00' then .error .nulByte
  else if path = "" then .error .notFound
  else if 4096 ≤ path.utf8ByteSize then .error .nameTooLong
  else .ok (names path)

/-- Where a path leads, whether or not something is there; only a directory may be named with a
slash at the end. -/
def resolve (t : FileTree) (path : String) : Except FileError (FileKey × Option FileNode) := do
  let key ← t.walk (origin path) (← names? path)
  match t.get? key with
  | some (.file content) =>
    if path.endsWith "/" then .error .notDirectory else .ok (key, some (.file content))
  | node => .ok (key, node)

def exists? (t : FileTree) (path : String) : Bool :=
  match t.resolve path with
  | .ok (_, node) => node.isSome
  | .error _ => false

def read (t : FileTree) (path : String) : Except FileError (Array UInt8) := do
  match ← t.resolve path with
  | (_, some (.file content)) => .ok content
  | (_, some .directory) => .error .isDirectory
  | (_, none) => .error .notFound

def readText (t : FileTree) (path : String) : Except FileError String := do
  let content ← t.read path
  match String.fromUTF8? ⟨content⟩ with
  | some text => .ok text
  | none => .error .notText

def endsInSlashedName (path : String) : Bool :=
  path.endsWith "/" && (names path).getLast?.any fun name => name != "." && name != ".."

/-- Opens a file for appending; where there is none, an empty one is made. A slash behind the last
name asks for a directory, whatever is there, once the way to it is found. -/
def openAppend (t : FileTree) (path : String) : Except FileError (FileKey × FileTree) := do
  if endsInSlashedName path then
    match t.get? (← t.walk (origin path) (← names? path).dropLast) with
    | some .directory => .error .isDirectory
    | some (.file _) => .error .notDirectory
    | none => .error .notFound
  else
    match ← t.resolve path with
    | (key, some (.file _)) => .ok (key, t)
    | (_, some .directory) => .error .isDirectory
    | (key, none) => .ok (key, t.put key (.file #[]))

def content (t : FileTree) (key : FileKey) : Array UInt8 :=
  match t.get? key with
  | some (.file content) => content
  | _ => #[]

def append (t : FileTree) (key : FileKey) (bytes : Array UInt8) : FileTree :=
  t.put key (.file (t.content key ++ bytes))

theorem get?_put_self (t : FileTree) {key : FileKey} (h : key.isFixed = false) (node : FileNode) :
    (t.put key node).get? key = some node := by
  simp [get?, put, h]

theorem content_append (t : FileTree) {key : FileKey} (h : key.isFixed = false)
    (bytes : Array UInt8) :
    (t.append key bytes).content key = t.content key ++ bytes := by
  rw [append, content, get?_put_self _ h]

end FileTree
end SocksGateway
