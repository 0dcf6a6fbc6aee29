import RouteScript.Command.Run

/-!
# The program

The outer layer: takes a picture of the files that a command line names, runs the command on it, prints
what the command says and writes back the files it changed. A watched directory is looked at again every
second.
-/

namespace RouteScript.Program

open Text

def toBytes (t : Text) : ByteArray := ⟨t.toArray⟩

def ofBytes (b : ByteArray) : Text := b.data.toList

/-- Everything in an argument that may be a path. -/
def candidates (argument : String) : List String :=
  let cs := argument.toList
  [argument, String.ofList (cs.drop 2), String.ofList ((cs.dropWhile (· ≠ '=')).drop 1)]

/-- The tree with the file or directory at a path, as far as it exists. -/
def addPath (t : FileTree) (path : String) : IO FileTree := do
  if path.isEmpty then return t
  let place := (← IO.currentDir) / path
  if ← place.isDir then
    let mut t := t.addDirectories (FileTree.placeOf t.home (utf8 path))
    for entry in ← place.readDir do
      let name := path ++ "/" ++ entry.fileName
      if ← entry.path.isDir then
        t := t.addDirectories (FileTree.placeOf t.home (utf8 name))
      else if entry.fileName.endsWith ".gs" then
        t := t.addFile (utf8 name) (ofBytes (← IO.FS.readBinFile entry.path))
    return t
  else if ← place.pathExists then
    return t.addFile (utf8 path) (ofBytes (← IO.FS.readBinFile place))
  else return t

def takePicture (paths : List String) : IO FileTree := do
  let home := FileTree.placeOf [] (utf8 (← IO.currentDir).toString)
  paths.foldlM addPath (FileTree.build home [] [])

def writeBack (before after : FileTree) : IO Unit := do
  for (place, content) in after.files do
    if before.files.find? (fun f => f.1 == place) |>.all (·.2 ≠ content) then
      let path := slash :: join [slash] place
      IO.FS.writeBinFile (String.ofList ((symbols path).map Symbol.char)) (toBytes content)

partial def readInput (stream : IO.FS.Stream) (bytes : ByteArray) : IO Delivery := do
  match ← (stream.read 65536).toBaseIO with
  | .error e => return ⟨ofBytes bytes, some ⟨utf8 (toString e), false⟩⟩
  | .ok more =>
    if more.isEmpty then return ⟨ofBytes bytes, none⟩ else readInput stream (bytes ++ more)

partial def keepWatching (i : Invocation) (paths : List String) : IO Unit := do
  IO.sleep 1000
  let tree ← takePicture paths
  (← IO.getStderr).write (toBytes (({ i with tree } : Invocation).recheck i.tree))
  keepWatching { i with tree } paths

end RouteScript.Program

open RouteScript RouteScript.Program in
def main (arguments : List String) : IO UInt32 := do
  let config := (← IO.getEnv "GSCRIPT_CONFIG").getD ""
  let debug := (← IO.getEnv "GSCRIPT_DEBUG").getD ""
  let paths := config :: arguments.flatMap candidates
  let bare : Invocation :=
    { arguments := arguments.map Text.utf8
      defaultConfig := Text.utf8 config
      debugWanted := !debug.isEmpty
      input := ⟨[], none⟩
      outputFailure := none
      tree := ← takePicture paths }
  let input ← if bare.readsInput then readInput (← IO.getStdin) .empty else pure ⟨[], none⟩
  let invocation := { bare with input }
  let outcome := invocation.run
  (← IO.getStdout).write (toBytes outcome.stdout)
  (← IO.getStdout).flush
  (← IO.getStderr).write (toBytes outcome.errorOutput)
  writeBack invocation.tree outcome.tree
  if outcome.error.isNone && invocation.watched?.isSome then keepWatching invocation paths
  return UInt32.ofNat outcome.exitCode
