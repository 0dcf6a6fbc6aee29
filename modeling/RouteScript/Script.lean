import RouteScript.Text.Blank

/-!
# Scripts

A script is a list of assignments. An assignment names a variable and lists candidate expressions in
order of priority: the first one that is bare or whose condition holds gives the value.
-/

namespace RouteScript

open Text

structure Condition where
  left : Text
  operator : Text
  right : Text
  deriving DecidableEq, Repr

def Condition.render (c : Condition) : Text :=
  c.left ++ [space] ++ c.operator ++ [space] ++ c.right

/-- A candidate value, with the condition that guards it if there is one. -/
structure Expression where
  condition : Option Condition
  value : Text
  statement : Text
  /-- The source line as it stands in the file. -/
  raw : Text
  line : Int
  deriving DecidableEq, Repr

namespace Expression

def isConditional (e : Expression) : Bool := e.condition.isSome

def render (e : Expression) : Text :=
  match e.condition with
  | none => e.value
  | some c => c.render ++ utf8 " ? " ++ e.value

end Expression

structure Assignment where
  name : Text
  line : Int
  expressions : List Expression
  deriving DecidableEq, Repr

/-- The assignment with one more candidate, of lowest priority. -/
def Assignment.add (a : Assignment) (e : Expression) : Assignment :=
  { a with expressions := a.expressions ++ [e] }

abbrev Script := List Assignment

/-- A script under construction, in which entries may still be vacant. -/
abbrev Draft := List (Option Assignment)

def Script.draft (s : Script) : Draft := s.map some

end RouteScript
