import RouteScript.Text.Quoted

/-!
# Diagnostics

A diagnostic tells the author of a script what is wrong and where. It has a one-line message and a
snippet that shows the offending source line. `Fault` lists everything that can be wrong with a
script; kind, wording and hint of a diagnostic follow from its fault.
-/

namespace RouteScript

open Text

inductive FaultKind where
  | misplaced
  | malformed
  | empty
  | other (code : Int)
  deriving DecidableEq, Repr

namespace FaultKind

def code : FaultKind → Int
  | .misplaced => 1
  | .malformed => 2
  | .empty => 3
  | .other n => n

def ofCode (n : Int) : FaultKind :=
  if n = 1 then .misplaced else if n = 2 then .malformed else if n = 3 then .empty else .other n

def name : FaultKind → Text
  | .misplaced => utf8 "structure error"
  | .malformed => utf8 "syntax error"
  | .empty => utf8 "empty document"
  | .other _ => utf8 "error"

end FaultKind

inductive Fault where
  | expressionFirst
  | missingColon
  | missingCondition
  | missingValue
  | unknownOperator (token : Text) (suggestion : Option Text)
  | malformedCondition
  | noAssignments
  deriving DecidableEq, Repr

namespace Fault

def kind : Fault → FaultKind
  | .expressionFirst => .misplaced
  | .noAssignments => .empty
  | _ => .malformed

def message : Fault → Text
  | .expressionFirst => utf8 "expression before any assignment start"
  | .missingColon => utf8 "missing colon in assignment declaration"
  | .missingCondition => utf8 "missing condition before '?'"
  | .missingValue => utf8 "missing value after '?'"
  | .unknownOperator t _ => utf8 "unknown operator " ++ quoted t
  | .malformedCondition => utf8 "condition must have the form 'left operator right'"
  | .noAssignments => utf8 "no assignments found"

def hint : Fault → Text
  | .unknownOperator _ (some t) => utf8 "did you mean " ++ quoted t ++ utf8 "?"
  | _ => []

end Fault

structure Diagnostic where
  /-- The name of the source, empty when unknown. -/
  file : Text
  message : Text
  text : Text
  hint : Text
  kind : FaultKind
  /-- The line, counted from one; zero when no line is meant. -/
  line : Int
  deriving DecidableEq, Repr

namespace Diagnostic

def ofFault (f : Fault) (file text : Text) (line : Int) : Diagnostic where
  file := file
  message := f.message
  text := text
  hint := f.hint
  kind := f.kind
  line := line

def heading (d : Diagnostic) : Text :=
  if d.file ≠ [] then
    if 0 < d.line then d.file ++ [colon] ++ decimal d.line ++ utf8 ": " ++ d.kind.name
    else d.file ++ utf8 ": " ++ d.kind.name
  else if 0 < d.line then d.kind.name ++ utf8 " at line " ++ decimal d.line
  else d.kind.name

def render (d : Diagnostic) : Text :=
  d.heading ++ utf8 ": " ++ d.message
    ++ (if d.text = [] then [] else utf8 ": " ++ quoted d.text)
    ++ (if d.hint = [] then [] else utf8 " (" ++ d.hint ++ utf8 ")")

/-- Line `n` of a source, counted from one and cut at line feeds; a carriage return at its end is
dropped. -/
def sourceLine? (source : Text) (n : Nat) : Option Text :=
  if source = [] then none
  else match n with
    | 0 => none
    | n + 1 => ((splitAt lf source)[n]?).map (dropEnding · [cr])

def location (d : Diagnostic) : Text :=
  if 0 < d.line then
    (if d.file = [] then [] else d.file ++ [colon]) ++ decimal d.line ++ utf8 ": "
  else if d.file = [] then []
  else d.file ++ utf8 ": "

/-- The text shown behind the line number: the source line if the source has it. -/
def shownText (d : Diagnostic) (source : Text) : Text :=
  (sourceLine? source d.line.toNat).getD d.text

/-- The diagnostic with the offending line and the hint below it. -/
def snippet (d : Diagnostic) (source : Text) : Text :=
  let heading := d.location ++ d.kind.name ++ utf8 ": " ++ d.message ++ [lf]
  if d.line ≤ 0 then heading
  else
    let gutter := decimal d.line
    heading ++ [space] ++ gutter ++ utf8 " | " ++ d.shownText source ++ [lf]
      ++ (if d.hint = [] then []
          else [space] ++ List.replicate gutter.length space ++ utf8 " = hint: " ++ d.hint ++ [lf])

end Diagnostic
end RouteScript
