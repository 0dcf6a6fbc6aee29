import RouteScript.Script
import RouteScript.Operators
import RouteScript.Diagnostic

/-!
# Reading expressions

A statement is a bare value, or a condition and a value around the first `?`. A condition is three
fields with a known operator in the middle, or operands written against a symbolic operator.
-/

namespace RouteScript

open Text

/-- Reads a condition from trimmed text. -/
def Condition.read (ops : OperatorTable) (s : Text) : Except Fault Condition :=
  if s = [] then .error .missingCondition
  else match fields s with
    | [left, op, right] =>
      if ops.has op then .ok ⟨left, op, right⟩
      else match ops.split? s with
        | some (l, o, r) => .ok ⟨l, o, r⟩
        | none => .error (.unknownOperator op (ops.suggest? op))
    | _ =>
      match ops.split? s with
      | some (l, o, r) => .ok ⟨l, o, r⟩
      | none => .error .malformedCondition

namespace Expression

def readParts (ops : OperatorTable) (statement : Text) : Except Fault (Option Condition × Text) :=
  match cut? question statement with
  | none => .ok (none, statement)
  | some (before, after) => do
    let c ← Condition.read ops (trim before)
    let value := trim after
    if value = [] then .error .missingValue else .ok (some c, value)

/-- Reads an expression from a statement; the source line and its number are kept with it. -/
def read (ops : OperatorTable) (raw statement : Text) (line : Int) : Except Fault Expression := do
  let (condition, value) ← readParts ops statement
  return { condition, value, statement, raw, line }

end Expression
end RouteScript
