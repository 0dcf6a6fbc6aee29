import RouteScript.Files.Tree
import RouteScript.Parse
import RouteScript.Format
import RouteScript.Lint

/-!
# Editing sessions

A session holds a draft and works on a file tree. Each step edits the draft, shows something of it, or
moves it from or to a file; a step that fails changes nothing.
-/

namespace RouteScript

open Text

inductive SessionError where
  | badIndex
  /-- A text, with the source it was read from if there is one, is no script. -/
  | unreadable (d : Diagnostic) (source : Text)
  | unwritable (f : FormatFault)
  | file (e : FileError)
  deriving DecidableEq, Repr

inductive SessionStep where
  | declare (name : Text) (line : Int)
  | vacate
  | drop (index : Int)
  | add (index : Int) (e : Expression)
  | addStatement (index : Int) (raw statement : Text) (line : Int)
  | view (index : Int)
  | load (text : Text) (o : ParseOptions)
  | append (text : Text) (o : ParseOptions)
  | format (o : FormatOptions)
  | lint (o : LintOptions)
  | reparse (fo : FormatOptions) (po : ParseOptions)
  | openFile (path : Text) (o : ParseOptions)
  | saveFile (path : Text) (o : FormatOptions)
  deriving DecidableEq, Repr

inductive SessionAnswer where
  | quiet
  | expressions (es : List Expression)
  | text (t : Text)
  | issues (is : List Issue)
  | failed (e : SessionError)
  deriving DecidableEq, Repr

structure Session where
  draft : Draft
  tree : FileTree
  deriving DecidableEq, Repr

namespace Session

/-- The script in a file; diagnostics name the file unless another name is given. -/
def readScript (tree : FileTree) (path : Text) (o : ParseOptions) : Except SessionError Script :=
  match tree.read path with
  | .error e => .error (.file e)
  | .ok content =>
    let o := if o.file = [] then { o with file := path } else o
    (Script.parse o content).mapError (.unreadable · [])

/-- The position of an index in the draft, whatever stands there. -/
def position? (s : Session) (i : Int) : Option Nat :=
  if 0 ≤ i ∧ i.toNat < s.draft.length then some i.toNat else none

def assignmentAt (s : Session) (i : Int) : Except SessionError (Nat × Assignment) :=
  match s.position? i with
  | none => .error .badIndex
  | some n =>
    match s.draft[n]? with
    | some (some a) => .ok (n, a)
    | _ => .error .badIndex

def step? (s : Session) : SessionStep → Except SessionError (Session × SessionAnswer)
  | .declare name line => .ok ({ s with draft := s.draft ++ [some ⟨name, line, []⟩] }, .quiet)
  | .vacate => .ok ({ s with draft := s.draft ++ [none] }, .quiet)
  | .drop i =>
    match s.position? i with
    | some n => .ok ({ s with draft := s.draft.eraseIdx n }, .quiet)
    | none => .error .badIndex
  | .add i e => do
    let (n, a) ← s.assignmentAt i
    return ({ s with draft := s.draft.set n (some (a.add e)) }, .quiet)
  | .addStatement i raw statement line => do
    let (n, a) ← s.assignmentAt i
    match Expression.read .default raw statement line with
    | .ok e => return ({ s with draft := s.draft.set n (some (a.add e)) }, .quiet)
    | .error f => .error (.unreadable (.ofFault f [] raw line) [])
  | .view i => do
    let (_, a) ← s.assignmentAt i
    return (s, .expressions a.expressions)
  | .load text o => do
    let script ← (Script.parse o text).mapError (.unreadable · text)
    return ({ s with draft := script.draft }, .quiet)
  | .append text o => do
    let script ← (Script.parse o text).mapError (.unreadable · text)
    return ({ s with draft := s.draft ++ script.draft }, .quiet)
  | .format o => do
    let text ← (s.draft.format o).mapError .unwritable
    return (s, .text text)
  | .lint o => .ok (s, .issues (Lint.issues o s.draft))
  | .reparse fo po => do
    let text ← (s.draft.format fo).mapError .unwritable
    let script ← (Script.parse po text).mapError (.unreadable · text)
    return ({ s with draft := script.draft }, .text text)
  | .openFile path o => do
    let script ← readScript s.tree path o
    return ({ s with draft := script.draft }, .quiet)
  | .saveFile path o => do
    let text ← (s.draft.format o).mapError .unwritable
    let tree ← (s.tree.write path text).mapError .file
    return ({ s with tree }, .quiet)

/-- One step; a step that fails changes nothing. -/
def step (s : Session) (t : SessionStep) : Session × SessionAnswer :=
  match s.step? t with
  | .ok r => r
  | .error e => (s, .failed e)

end Session
end RouteScript
