import RouteScript.Text.Basic

/-!
# Paths

A path is written as names with slashes between them. Cleaning removes empty and `.` names and lets
`..` cancel the name before it.
-/

namespace RouteScript.Path

open Text

def names (p : Text) : List Text := splitAt slash p

def isRooted (p : Text) : Bool := p.head? == some slash

/-- One name pushed on the names kept so far, newest first. -/
def pushName (rooted : Bool) (kept : List Text) (name : Text) : List Text :=
  if name = [] ∨ name = [dot] then kept
  else if name = [dot, dot] then
    match kept with
    | [] => if rooted then [] else [[dot, dot]]
    | top :: rest => if top = [dot, dot] then [dot, dot] :: kept else rest
  else name :: kept

/-- The shortest path equal to a given one. -/
def clean (p : Text) : Text :=
  let rooted := isRooted p
  let body := join [slash] ((names p).foldl (pushName rooted) []).reverse
  if rooted then slash :: body else if body = [] then [dot] else body

def below (dir name : Text) : Text :=
  clean (if dir = [] then name else dir ++ [slash] ++ name)

/-- The last name of a path, cut at its last dot: the dot and what follows it, empty without a dot. -/
def extension (p : Text) : Text :=
  let name := ((names p).getLast?).getD []
  match cut? dot name.reverse with
  | some (ending, _) => dot :: ending.reverse
  | none => []

end RouteScript.Path
