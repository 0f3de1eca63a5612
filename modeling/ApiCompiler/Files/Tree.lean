import ApiCompiler.Files.Path
import ApiCompiler.Files.System

/-!
A tree of files in memory, with the rules of a file system. Places in the tree are lists of names.
There is a limit to names, but none to paths as a whole or to what the tree holds.
-/

set_option autoImplicit false

namespace ApiCompiler

structure FileTree where
  files : List (List String × List UInt8)
  /-- The directories that were made; those that hold a file exist anyway. -/
  directories : List (List String)
  deriving Inhabited

namespace FileTree

def empty : FileTree := ⟨[], []⟩

inductive Status
  | missing
  | file (contents : List UInt8)
  | directory
  deriving DecidableEq, Repr

/-- Whether a place lies on the way to another one. -/
def isAbove (place other : List String) : Bool := place.isPrefixOf other && place != other

def status (tree : FileTree) (place : List String) : Status :=
  match tree.files.lookup place with
  | some contents => .file contents
  | none =>
      if place.isEmpty || tree.directories.contains place
        || tree.files.any (fun entry => isAbove place entry.1)
        || tree.directories.any (isAbove place)
      then .directory
      else .missing

def checkDirectory (tree : FileTree) (place : List String) : Except FileFault Unit :=
  match tree.status place with
  | .directory => .ok ()
  | .file _ => .error .notDirectory
  | .missing => .error .notFound

/-- Follows the pieces of a path from a place. The last piece may name nothing yet. -/
def follow (tree : FileTree) : (place pieces : List String) → Except FileFault (List String)
  | place, [] => .ok place
  | place, piece :: rest => do
      tree.checkDirectory place
      if Path.isVoid piece then tree.follow place rest
      else if piece = ".." then tree.follow place.dropLast rest
      else if Path.isLong piece then throw .nameTooLong
      else tree.follow (place ++ [piece]) rest

/-- Follows the pieces of a path from the root, if they are text that a system takes. -/
def walk (tree : FileTree) (pieces : List String) : Except FileFault (List String) :=
  if pieces.any Path.holdsNul then .error .nulInPath else tree.follow [] pieces

def locate (tree : FileTree) (path : String) : Except FileFault (List String) :=
  if path.isEmpty then .error .notFound else tree.walk (Path.pieces path)

def read (tree : FileTree) (path : String) : Except FileFault (List UInt8) := do
  match tree.status (← tree.locate path) with
  | .file contents => return contents
  | .directory => throw .isDirectory
  | .missing => throw .notFound

def endsInSlash (path : String) : Bool := path.toList.getLast? = some '/'

/-- The place of a path under which a file is to be made: its name has no slash behind it. -/
def locateNew (tree : FileTree) (path : String) : Except FileFault (List String) :=
  if endsInSlash path then do
    let _ ← tree.locate (Path.ofPieces (Path.trimmed (Path.pieces path)))
    .error .isDirectory
  else tree.locate path

def putFile (tree : FileTree) (place : List String) (contents : List UInt8) : FileTree :=
  { tree with
    files := (place, contents) :: tree.files.filter fun entry => entry.1 != place }

def write (tree : FileTree) (path : String) (contents : List UInt8) :
    Except FileFault FileTree := do
  let place ← tree.locateNew path
  match tree.status place with
  | .directory => throw .isDirectory
  | _ => return tree.putFile place contents

def createDirectory (tree : FileTree) (path : String) : Except FileFault FileTree := do
  let place ← tree.locate (Path.ofPieces (Path.trimmed (Path.pieces path)))
  match tree.status place with
  | .missing => return { tree with directories := place :: tree.directories }
  | _ => throw .alreadyExists

def isDirectory (tree : FileTree) (path : String) : Bool :=
  match tree.locate path with
  | .ok place => tree.status place == .directory
  | .error _ => false

/-- A directory that is there already will do. -/
def ensureDirectory (tree : FileTree) (path : String) : Except FileFault FileTree :=
  match tree.createDirectory path with
  | .ok made => .ok made
  | .error fault => if tree.isDirectory path then .ok tree else .error fault

/-- Makes a directory, and first those above it if one is missing. -/
def createDirectoriesFrom : (levels : Nat) → FileTree → String → Except FileFault FileTree
  | 0, _, _ => .error .notFound
  | levels + 1, tree, path =>
      if path.isEmpty then .ok tree
      else
        match tree.createDirectory path with
        | .ok made => .ok made
        | .error .notFound => do
            match Path.parent? path with
            | none => throw .notFound
            | some parent =>
                let above ← createDirectoriesFrom levels tree parent
                above.ensureDirectory path
        | .error fault => if tree.isDirectory path then .ok tree else .error fault

def createDirectories (tree : FileTree) (path : String) : Except FileFault FileTree :=
  createDirectoriesFrom (path.length + 1) tree path

def update (change : FileTree → Except FileFault FileTree) :
    StateM FileTree (Except FileFault Unit) := do
  match change (← get) with
  | .ok tree =>
      set tree
      return .ok ()
  | .error fault => return .error fault

def system : FileSystem (StateM FileTree) where
  read := fun path => return (← get).read path
  write := fun path contents => update (·.write path contents)
  createDirectories := fun path => update (·.createDirectories path)

/-- The files of one tree that another one lacks or holds otherwise. -/
def changes (before after : FileTree) : List (List String × List UInt8) :=
  after.files.filter fun entry => before.files.lookup entry.1 != some entry.2

end FileTree

end ApiCompiler
