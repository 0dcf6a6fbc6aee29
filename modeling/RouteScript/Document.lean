import RouteScript.Script
import RouteScript.Json.Writer
import RouteScript.Yaml.Writer

/-!
# Documents

A script together with the name of its source, written as JSON or YAML. Empty fields that can be told
from the others are left out.
-/

namespace RouteScript

open Text

structure Document where
  file : Text
  assignments : Script
  deriving DecidableEq, Repr

namespace Document

def conditionFields (c : Condition) : List (Text × Text) :=
  [(utf8 "left", Json.string c.left), (utf8 "operator", Json.string c.operator),
    (utf8 "right", Json.string c.right)]

def conditionJson (depth : Nat) (c : Condition) : Text := Json.object depth (conditionFields c)

def expressionFields (depth : Nat) (e : Expression) : List (Text × Text) :=
  (match e.condition with
    | some c => [(utf8 "condition", conditionJson (depth + 1) c)]
    | none => [])
  ++ [(utf8 "value", Json.string e.value), (utf8 "statement", Json.string e.statement)]
  ++ (if e.raw = [] then [] else [(utf8 "raw", Json.string e.raw)])
  ++ [(utf8 "line", decimal e.line)]

def expressionJson (depth : Nat) (e : Expression) : Text :=
  Json.object depth (expressionFields depth e)

def assignmentFields (depth : Nat) (a : Assignment) : List (Text × Text) :=
  [(utf8 "name", Json.string a.name)]
  ++ (if a.expressions = [] then []
      else [(utf8 "expressions",
        Json.array (depth + 1) (a.expressions.map (expressionJson (depth + 2))))])
  ++ [(utf8 "line", decimal a.line)]

def assignmentJson (depth : Nat) (a : Assignment) : Text :=
  Json.object depth (assignmentFields depth a)

def documentFields (d : Document) : List (Text × Text) :=
  (if d.file = [] then [] else [(utf8 "file", Json.string d.file)])
  ++ [(utf8 "assignments", Json.array 1 (d.assignments.map (assignmentJson 2)))]

def json (d : Document) : Text := Json.object 0 d.documentFields ++ [lf]

def conditionYaml (c : Condition) : Text :=
  List.replicate 10 space ++
    Yaml.mapping 10 [("left", .string c.left), ("operator", .string c.operator),
      ("right", .string c.right)]

def expressionYaml (e : Expression) : Text :=
  Yaml.mapping 8 <|
    (match e.condition with
      | some c => [("condition", .block (conditionYaml c))]
      | none => [])
    ++ [("value", .string e.value), ("statement", .string e.statement)]
    ++ (if e.raw = [] then [] else [("raw", .string e.raw)])
    ++ [("line", .number e.line)]

def assignmentYaml (a : Assignment) : Text :=
  Yaml.mapping 4 <|
    [("name", .string a.name)]
    ++ (if a.expressions = [] then []
        else [("expressions", .block (Yaml.sequence 6 (a.expressions.map expressionYaml)))])
    ++ [("line", .number a.line)]

def yaml (d : Document) : Text :=
  Yaml.mapping 0 <|
    (if d.file = [] then [] else [("file", .string d.file)])
    ++ [("assignments", .block (Yaml.sequence 2 (d.assignments.map assignmentYaml)))]

end Document
end RouteScript
