import RouteScript.Files.Tree

/-!
# Watching a directory

Changes to a file tree are reported while a directory is watched: a script file, recognised by the
ending of its name, is reported when it appears directly in the directory or is written to. Removing a
file or changing its mode is not reported.
-/

namespace RouteScript

open Text

inductive FileChange where
  /-- A complete file is put at a path. -/
  | put (path content : Text)
  | append (path content : Text)
  | rename (path target : Text)
  | makeDirectory (path : Text)
  | remove (path : Text)
  | changeMode (path : Text)
  deriving DecidableEq, Repr

def scriptEnding : Text := utf8 ".gs"

namespace FileTree

def isInhabited (t : FileTree) (p : Place) : Bool :=
  t.places.any fun q => p.isPrefixOf q && p.length < q.length

def erase (t : FileTree) (p : Place) : FileTree :=
  { t with
    files := t.files.filter fun f => !p.isPrefixOf f.1
    directories := t.directories.filter fun d => !p.isPrefixOf d }

def move (t : FileTree) (p q : Place) : FileTree :=
  let moved (r : Place) : Place := if p.isPrefixOf r then q ++ r.drop p.length else r
  let kept := t.erase q
  { kept with
    files := kept.files.map fun f => (moved f.1, f.2)
    directories := kept.directories.map moved }

end FileTree

structure WatchState where
  tree : FileTree
  /-- The watched place, until the directory itself goes away. -/
  watched : Option Place
  name : Text
  deriving DecidableEq, Repr

namespace WatchState

def start (t : FileTree) (path : Text) : Except FileFault WatchState :=
  match t.resolve path with
  | .ok (.found p _) => .ok ⟨t, some p, Path.clean path⟩
  | .ok (.vacant _ _) => .error .notFound
  | .error f => .error f

/-- The report of a change at a place: scripts directly in the watched directory only. -/
def report (s : WatchState) (p : Place) : List Text :=
  match p.getLast? with
  | none => []
  | some name =>
    if s.watched = some p.dropLast ∧ scriptEnding.isSuffixOf name then
      [s.name ++ [slash] ++ name]
    else []

/-- The state after the tree lost a place: a watched directory that is gone is watched no more. -/
def losing (s : WatchState) (t : FileTree) (p : Place) : WatchState :=
  { s with tree := t, watched := s.watched.filter fun w => !p.isPrefixOf w }

/-- A change to the tree, with the paths it reports; a change that fails does nothing. -/
def apply (s : WatchState) : FileChange → WatchState × List Text
  | .put path content =>
    match s.tree.resolve path with
    | .ok (.found p (.file _)) | .ok (.vacant p false) =>
      ({ s with tree := s.tree.setFile p content }, s.report p)
    | _ => (s, [])
  | .append path content =>
    match s.tree.resolve path with
    | .ok (.found p (.file old)) =>
      if content = [] then (s, [])
      else ({ s with tree := s.tree.setFile p (old ++ content) }, s.report p)
    | _ => (s, [])
  | .rename path target =>
    match s.tree.resolve path, s.tree.resolve target with
    | .ok (.found p (.file _)), .ok (.found q (.file _))
    | .ok (.found p (.file _)), .ok (.vacant q false) =>
      if p = q then (s, []) else ({ s with tree := s.tree.move p q }, s.report q)
    | .ok (.found p .directory), .ok (.vacant q _) =>
      if p.isPrefixOf s.tree.home || p.isPrefixOf q then (s, []) else (s.losing (s.tree.move p q) p, s.report q)
    | .ok (.found p .directory), .ok (.found q .directory) =>
      if p.isPrefixOf s.tree.home || p.isPrefixOf q || q.isPrefixOf p || s.tree.isInhabited q then (s, [])
      else ((s.losing (s.tree.move p q) p).losing (s.tree.move p q) q, s.report q)
    | _, _ => (s, [])
  | .makeDirectory path =>
    match s.tree.resolve path with
    | .ok (.vacant p _) => ({ s with tree := s.tree.addDirectory p }, s.report p)
    | _ => (s, [])
  | .remove path =>
    match s.tree.resolve path with
    | .ok (.found p (.file _)) => ({ s with tree := s.tree.erase p }, [])
    | .ok (.found p .directory) =>
      if p.isPrefixOf s.tree.home || s.tree.isInhabited p then (s, []) else (s.losing (s.tree.erase p) p, [])
    | _ => (s, [])
  | .changeMode _ => (s, [])

def applyAll : WatchState → List FileChange → List (List Text)
  | _, [] => []
  | s, c :: cs =>
    let (s', paths) := s.apply c
    paths :: applyAll s' cs

end WatchState
end RouteScript
