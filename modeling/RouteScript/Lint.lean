import RouteScript.Script

/-!
# Findings about scripts

Linting looks for assignments that are declared twice, have no expressions, have expressions that can
never be selected, may select nothing, or refer to their own variable. Conditions are not evaluated.
-/

namespace RouteScript

open Text

inductive Severity where
  | warning
  | error
  deriving DecidableEq, Repr

def Severity.name : Severity → Text
  | .warning => utf8 "warning"
  | .error => utf8 "error"

inductive Finding where
  /-- The name was declared before, first at the given line. -/
  | duplicate (first : Int)
  | noExpressions
  | selfReference
  /-- The given number of expressions stand behind a bare value. -/
  | unreachable (count : Nat)
  | noFallback
  deriving DecidableEq, Repr

namespace Finding

/-- Only a repeated declaration is an error. -/
def severity : Finding → Severity
  | .duplicate _ => .error
  | _ => .warning

def code : Finding → Text
  | .duplicate _ => utf8 "duplicate_assignment"
  | .noExpressions => utf8 "empty_assignment"
  | .selfReference => utf8 "self_reference"
  | .unreachable _ => utf8 "unreachable_expression"
  | .noFallback => utf8 "missing_fallback"

def message : Finding → Text
  | .duplicate first => utf8 "already declared at line " ++ decimal first
  | .noExpressions => utf8 "assignment has no expressions"
  | .selfReference => utf8 "condition references the assigned variable"
  | .unreachable n =>
    decimal n ++ utf8 " expression(s) after unconditional value are unreachable"
  | .noFallback => utf8 "no unconditional fallback value"

end Finding

structure Issue where
  finding : Finding
  name : Text
  line : Int
  deriving DecidableEq, Repr

def Issue.render (i : Issue) : Text :=
  (if 0 < i.line then decimal i.line ++ utf8 ": " else [])
    ++ i.finding.severity.name ++ utf8 ": " ++ i.name ++ utf8 ": " ++ i.finding.message

structure LintOptions where
  skipFallback : Bool := false
  skipDuplicates : Bool := false
  skipUnreachable : Bool := false
  deriving DecidableEq, Repr

namespace Lint

variable (o : LintOptions)

def refersTo (name : Text) (e : Expression) : Bool :=
  match e.condition with
  | some c => c.left == name || c.right == name
  | none => false

/-- The issues of the expressions of `a` from some expression on; `reported` tells that unreachable
ones were already found. -/
def expressionIssues (a : Assignment) : (reported : Bool) → List Expression → List Issue
  | _, [] => []
  | reported, e :: es =>
    let self := if refersTo (trim a.name) e then [⟨.selfReference, a.name, e.line⟩] else []
    let found := !o.skipUnreachable && !reported && !e.isConditional
    match es with
    | next :: _ =>
      let behind := if found then [⟨.unreachable es.length, a.name, next.line⟩] else []
      self ++ behind ++ expressionIssues a (reported || found) es
    | [] => self

def fallbackIssues (a : Assignment) : List Issue :=
  match a.expressions.getLast? with
  | some last =>
    if !o.skipFallback && last.isConditional && a.expressions.all Expression.isConditional then
      [⟨.noFallback, a.name, last.line⟩]
    else []
  | none => []

def assignmentIssues (a : Assignment) : List Issue :=
  if a.expressions = [] then [⟨.noExpressions, a.name, a.line⟩]
  else expressionIssues o a false a.expressions ++ fallbackIssues o a

def firstLine? (seen : List (Text × Int)) (name : Text) : Option Int :=
  (seen.find? fun d => d.1 == name).map Prod.snd

/-- The issues of the entries behind the declarations `seen`. -/
def issuesFrom : (seen : List (Text × Int)) → Draft → List Issue
  | _, [] => []
  | seen, none :: rest => issuesFrom seen rest
  | seen, some a :: rest =>
    let repeated :=
      match firstLine? seen a.name with
      | some first => if o.skipDuplicates then [] else [⟨.duplicate first, a.name, a.line⟩]
      | none => []
    repeated ++ assignmentIssues o a ++ issuesFrom (seen ++ [(a.name, a.line)]) rest

def issues (d : Draft) : List Issue := issuesFrom o [] d

def hasError (is : List Issue) : Bool := is.any fun i => i.finding.severity == .error

end Lint
end RouteScript
