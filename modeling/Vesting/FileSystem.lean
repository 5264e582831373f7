/-
# Files and folders

A tree of folders and files, by the names that lead to them from the root.  A path is followed
name by name: every name but the last has to lead into a folder.  Names and paths must not be too
long, and a name's length is looked at when its turn comes.  Links are followed on the way, but not
too many of them.
-/
import Vesting.Path

namespace Vesting

/-- What a name in a folder stands for. -/
inductive Node
  | folder
  | file (content : Bytes)
deriving DecidableEq

/-- Folders and files by the names that lead to them. -/
structure FileSystem where
  entries : List (List String × Node) := []

namespace FileSystem

/-- What is found at the end of names. -/
def node? (fs : FileSystem) (place : List String) : Option Node :=
  if place.isEmpty then some .folder else fs.entries.lookup place

/-- Puts a node at the end of names, in the place of what was there. -/
def put (fs : FileSystem) (place : List String) (node : Node) : FileSystem where
  entries := (place, node) :: fs.entries.filter fun e => e.1 != place

/-- Puts a file at the end of names, with all the folders that lead there. -/
def install (fs : FileSystem) (folder : List String) (content : Bytes) : List String → FileSystem
  | [] => fs
  | [name] => fs.put (folder ++ [name]) (.file content)
  | name :: rest =>
    install (fs.put (folder ++ [name]) .folder) (folder ++ [name]) content rest

/-! ## 1. Following paths -/

/-- The most bytes that a name may have. -/
def maxName : Nat := 255

/-- The most bytes that a path may have. -/
def maxPath : Nat := 4095

/-- The most links that are followed for one path. -/
def maxLinks : Nat := 40

/-- Follows names from a folder, up to a link.  What is done there is for `onLink`, which is told
the folder, the target and the names behind.  The last name need not lead anywhere; if it is a
link, it is only followed if `through` says so. -/
def walkUpTo (onLink : List String → String → List String → Except FileFault (List String))
    (fs : FileSystem) (env : Environment) (through : Bool) (place : List String) :
    List String → Except FileFault (List String)
  | [] => .ok place
  | name :: rest =>
    match fs.node? place with
    | none => .error .notFound
    | some (.file _) => .error .notDirectory
    | some .folder =>
      if maxName < name.utf8ByteSize then .error .tooLong
      else if name = ".." then walkUpTo onLink fs env through place.dropLast rest
      else match env.link? (place ++ [name]) with
        | none => walkUpTo onLink fs env through (place ++ [name]) rest
        | some target =>
          if rest.isEmpty && !through then .ok (place ++ [name]) else onLink place target rest

/-- Follows names from a folder, and at most `left` links on the way. -/
def walk (fs : FileSystem) (env : Environment) (through : Bool) : (left : Nat) →
    (place names : List String) → Except FileFault (List String)
  | 0, place, names => fs.walkUpTo (fun _ _ _ => .error .linkLoop) env through place names
  | left + 1, place, names =>
    let onLink (place : List String) (target : String) (rest : List String) :=
      let p := Path.ofText target
      walk fs env through left (if p.isAbsolute then [] else place) (p.names ++ rest)
    fs.walkUpTo onLink env through place names

/-- Where a path leads. -/
def locate (fs : FileSystem) (env : Environment) (p : Path) (through : Bool := true) :
    Except FileFault (List String) :=
  if maxPath < p.text.utf8ByteSize then .error .tooLong
  else fs.walk env through maxLinks (if p.isAbsolute then [] else env.folder) p.names

/-- What a path leads to. -/
def find (fs : FileSystem) (env : Environment) (p : Path) : Except FileFault Node := do
  match fs.node? (← fs.locate env p) with
  | some node => return node
  | none => throw .notFound

/-- The path leads to something.  Only one that is too long leaves the question open. -/
def holds (fs : FileSystem) (env : Environment) (p : Path) : Except FileFault Bool :=
  match fs.find env p with
  | .ok _ => .ok true
  | .error .tooLong => .error .tooLong
  | .error _ => .ok false

/-- The path leads to a folder. -/
def isFolder (fs : FileSystem) (env : Environment) (p : Path) : Bool :=
  match fs.find env p with
  | .ok .folder => true
  | _ => false

/-- The content of a file. -/
def read (fs : FileSystem) (env : Environment) (p : Path) : Except FileFault Bytes := do
  match ← fs.find env p with
  | .file content => return content
  | .folder => throw .isDirectory

/-! ## 2. Changes -/

/-- Writes a file into a folder that exists. -/
def write (fs : FileSystem) (env : Environment) (p : Path) (content : Bytes) :
    Except FileFault FileSystem := do
  let place ← fs.locate env p
  if fs.node? place = some .folder then throw .isDirectory
  return fs.put place (.file content)

/-- Makes a folder in one that exists. -/
def makeFolder (fs : FileSystem) (env : Environment) (p : Path) : Except FileFault FileSystem := do
  let place ← fs.locate env p false
  if (fs.node? place).isSome || (env.link? place).isSome then throw .alreadyExists
  return fs.put place .folder

/-- Makes a folder unless it is there. -/
def ensureFolder (fs : FileSystem) (env : Environment) (p : Path) : Except FileFault FileSystem :=
  match fs.makeFolder env p with
  | .error .notFound => .error .notFound
  | .error why => if fs.isFolder env p then .ok fs else .error why
  | .ok fs => .ok fs

/-- How many folders may be missing on the way to a new one. -/
def maxMissing : Nat := 989

/-- Makes a folder and all that lead to it, as far as they are not there; at most `missing` are
made on the way. -/
def ensureFolders (fs : FileSystem) (env : Environment) (missing : Nat) (p : Path) :
    Except Fault FileSystem :=
  match fs.ensureFolder env p, missing with
  | .ok fs, _ => .ok fs
  | .error .notFound, 0 => .error .tooDeep
  | .error .notFound, missing + 1 =>
    if p.names.isEmpty then .error (.file .notFound p.text)
    else match fs.ensureFolders env missing p.parent with
      | .error why => .error why
      | .ok fs =>
        match fs.ensureFolder env p with
        | .ok fs => .ok fs
        | .error why => .error (.file why p.text)
  | .error why, _ => .error (.file why p.text)

end FileSystem
end Vesting
