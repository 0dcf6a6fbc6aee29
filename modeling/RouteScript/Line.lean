import RouteScript.Text.Blank

/-!
# Physical lines

A text is cut into physical lines at `"\n"`, `"\r\n"` and a lone `"\r"`. Each line is blank, starts
an assignment, or holds an expression that continues one; a `#` starts a comment.
-/

namespace RouteScript

inductive LineKind where
  | blank
  | assignment
  | expression
  deriving DecidableEq, Repr

namespace LineKind

def name : LineKind → Text
  | .blank => Text.utf8 "blank"
  | .assignment => Text.utf8 "assignment"
  | .expression => Text.utf8 "expression"

end LineKind

namespace Line

open Text

def withoutComment (raw : Text) : Text := raw.takeWhile (· ≠ hashSign)

/-- The line is indented: a space in front, or a tab where tabs are allowed. -/
def isIndented (allowTab : Bool) : Text → Bool
  | b :: _ => b == space || (allowTab && b == tab)
  | [] => false

/-- The kind of a line and its statement: the text before the comment, trimmed. The kind is judged
before trimming, and a line whose statement is empty is blank. -/
def classify (allowTab : Bool) (raw : Text) : LineKind × Text :=
  let body := withoutComment raw
  let statement := trim body
  if statement = [] then (.blank, [])
  else if isIndented allowTab body then (.expression, statement)
  else (.assignment, statement)

def byteOrderMark : Text := [0xEF, 0xBB, 0xBF]

/-- The first of the given lines loses its byte order mark. -/
def dropMark : List Text → List Text
  | [] => []
  | l :: ls => dropBeginning l byteOrderMark :: ls

/-- The terminated lines of a text, and what follows the last terminator. -/
def terminated : Text → List Text × Text
  | [] => ([], [])
  | cr :: lf :: t => let (ls, rest) := terminated t; ([] :: ls, rest)
  | b :: t =>
    let (ls, rest) := terminated t
    if b = lf ∨ b = cr then ([] :: ls, rest)
    else match ls with
      | [] => ([], b :: rest)
      | l :: ls => ((b :: l) :: ls, rest)

/-- All physical lines of a text; the last one needs no terminator unless it is empty. -/
def all (t : Text) : List Text :=
  let (ls, rest) := terminated t
  if rest = [] then ls else ls ++ [rest]

end Line
end RouteScript
