import RouteScript.Files.Path

/-!
# File trees

The files and directories of a machine, as far as they are known, and the working directory that
relative paths start from. Paths are followed name by name, as a file system does: every name but the
last must be a directory.
-/

namespace RouteScript

open Text

/-- The place of a file or directory, as the names that lead to it from the root. -/
abbrev Place := List Text

inductive Entry where
  | file (content : Text)
  | directory
  deriving DecidableEq, Repr

/-- Files, directories and the working directory. The root always exists. -/
structure FileTree where
  files : List (Place × Text)
  directories : List Place
  home : Place
  deriving DecidableEq, Repr

inductive FileFault where
  | notFound
  | notDirectory
  | isDirectory
  | invalidName
  | nameTooLong
  deriving DecidableEq, Repr

def FileFault.message : FileFault → Text
  | .notFound => utf8 "no such file or directory"
  | .notDirectory => utf8 "not a directory"
  | .isDirectory => utf8 "is a directory"
  | .invalidName => utf8 "invalid argument"
  | .nameTooLong => utf8 "file name too long"

structure FileError where
  operation : Text
  path : Text
  fault : FileFault
  deriving DecidableEq, Repr

def FileError.message (e : FileError) : Text :=
  e.operation ++ [space] ++ e.path ++ utf8 ": " ++ e.fault.message

inductive Target where
  | found (place : Place) (entry : Entry)
  /-- A free name in an existing directory; with a slash behind it, it can only become a directory. -/
  | vacant (place : Place) (slashed : Bool)
  deriving DecidableEq, Repr

namespace FileTree

def entry? (t : FileTree) (p : Place) : Option Entry :=
  match t.files.find? fun f => f.1 == p with
  | some f => some (.file f.2)
  | none => if p = [] ∨ p ∈ t.directories then some .directory else none

def longestPath : Nat := 4095

def longestName : Nat := 255

def walk (t : FileTree) : (dir : Place) → List Text → Except FileFault Target
  | dir, [] => .ok (.found dir .directory)
  | dir, name :: rest =>
    if name = [] ∨ name = [dot] then t.walk dir rest
    else if name = [dot, dot] then t.walk dir.dropLast rest
    else if longestName < name.length then .error .nameTooLong
    else match t.entry? (dir ++ [name]) with
      | some .directory => t.walk (dir ++ [name]) rest
      | some (.file content) =>
        if rest = [] then .ok (.found (dir ++ [name]) (.file content)) else .error .notDirectory
      | none =>
        if rest.all (· = []) then .ok (.vacant (dir ++ [name]) (rest ≠ [])) else .error .notFound

def resolve (t : FileTree) (path : Text) : Except FileFault Target :=
  if 0 ∈ path then .error .invalidName
  else if path = [] then .error .notFound
  else if longestPath < path.length then .error .nameTooLong
  else t.walk (if Path.isRooted path then [] else t.home) (Path.names path)

def isDirectory (t : FileTree) (path : Text) : Bool :=
  match t.resolve path with
  | .ok (.found _ .directory) => true
  | _ => false

def contains (t : FileTree) (path : Text) : Bool :=
  match t.resolve path with
  | .ok (.found _ _) => true
  | _ => false

def read (t : FileTree) (path : Text) : Except FileError Text :=
  match t.resolve path with
  | .ok (.found _ (.file content)) => .ok content
  | .ok (.found _ .directory) => .error ⟨utf8 "read", path, .isDirectory⟩
  | .ok (.vacant _ _) => .error ⟨utf8 "open", path, .notFound⟩
  | .error f => .error ⟨utf8 "open", path, f⟩

def setFile (t : FileTree) (p : Place) (content : Text) : FileTree :=
  if t.files.any (fun f => f.1 == p) then
    { t with files := t.files.map fun f => if f.1 = p then (p, content) else f }
  else { t with files := t.files ++ [(p, content)] }

/-- Replaces the content of the file at a path, or makes the file. -/
def write (t : FileTree) (path content : Text) : Except FileError FileTree :=
  match t.resolve path with
  | .ok (.found p (.file _)) | .ok (.vacant p false) => .ok (t.setFile p content)
  | .ok (.found _ .directory) | .ok (.vacant _ true) =>
    .error ⟨utf8 "open", path, .isDirectory⟩
  | .error f => .error ⟨utf8 "open", path, f⟩

def addDirectory (t : FileTree) (p : Place) : FileTree :=
  if p = [] ∨ p ∈ t.directories then t else { t with directories := t.directories ++ [p] }

def addDirectories (t : FileTree) (p : Place) : FileTree :=
  (List.range (p.length + 1)).foldl (fun t n => t.addDirectory (p.take n)) t

/-- The place of a path, by its names alone. -/
def placeOf (home : Place) (path : Text) : Place :=
  let start := if Path.isRooted path then [] else home.reverse
  ((Path.names path).foldl (Path.pushName true) start).reverse

def addFile (t : FileTree) (path content : Text) : FileTree :=
  let p := placeOf t.home path
  (t.addDirectories p.dropLast).setFile p content

def build (home : Place) (files : List (Text × Text)) (directories : List Text) : FileTree :=
  let t := FileTree.addDirectories ⟨[], [], home⟩ home
  let t := directories.foldl (fun t d => t.addDirectories (placeOf home d)) t
  files.foldl (fun t f => t.addFile f.1 f.2) t

def listing (t : FileTree) : List (Text × Text) :=
  (t.files.filter fun f => t.home.isPrefixOf f.1).map fun f =>
    (join [slash] (f.1.drop t.home.length), f.2)

def places (t : FileTree) : List Place := t.files.map Prod.fst ++ t.directories

/-- The names in a directory, in order of their bytes. -/
def namesIn (t : FileTree) (dir : Place) : List Text :=
  let inside := t.places.filter fun p => p ≠ [] && p.dropLast == dir
  (inside.filterMap List.getLast?).mergeSort fun a b => !decide (b < a)

end FileTree
end RouteScript
