import RouteScript.Line
import RouteScript.Expression

/-!
# Reading scripts

Physical lines are read in order. An assignment line opens an assignment, with an expression behind
its colon if there is one; an indented line adds an expression to the assignment above it. Reading
stops at the first fault. Alongside the result, reading leaves a trace: one event for every line it
looked at and one for a completed script.

A source may fail before its end. Lines that were terminated before the failure are read; what
follows the last terminator is not.
-/

namespace RouteScript

open Text

structure ParseOptions where
  file : Text := []
  /-- Replaces the default operators if it has a usable token. -/
  operators : List Text := []
  extraOperators : List Text := []
  /-- A leading tab counts as indentation, as a leading space always does. -/
  allowTab : Bool := false
  deriving DecidableEq, Repr

def ParseOptions.table (o : ParseOptions) : OperatorTable :=
  let base :=
    if (OperatorTable.ofList o.operators).tokens = [] then OperatorTable.defaultTokens
    else o.operators
  .ofList (base ++ o.extraOperators)

/-- What reading did, in order. -/
inductive ParseEvent where
  | classified (line : Nat) (kind : LineKind) (statement : Text)
  | finished (assignments lines : Nat)
  deriving DecidableEq, Repr

/-- A failure of a source. Some failures only announce the end of the input. -/
structure SourceFailure where
  cause : Text
  meansEnd : Bool
  deriving DecidableEq, Repr

def SourceFailure.message (f : SourceFailure) : Text :=
  if f.meansEnd then f.cause ++ utf8 ": EOF" else f.cause

/-- The bytes a source delivered, and the failure after them if it did not end by itself. -/
structure Delivery where
  bytes : Text
  failure : Option SourceFailure
  deriving DecidableEq, Repr

inductive ReadError where
  | diagnostic (d : Diagnostic)
  | failure (f : SourceFailure)
  deriving DecidableEq, Repr

def ReadError.message : ReadError → Text
  | .diagnostic d => d.render
  | .failure f => f.message

namespace Script

variable (o : ParseOptions) (ops : OperatorTable)

def readExpression (n : Nat) (raw statement : Text) : Except Diagnostic Expression :=
  match Expression.read ops raw statement n with
  | .ok e => .ok e
  | .error f => .error (.ofFault f o.file raw n)

/-- The assignments after line `n`, newest first, from those before it. -/
def readLine (done : List Assignment) (n : Nat) (raw : Text) :
    Except Diagnostic (List Assignment) :=
  match Line.classify o.allowTab raw with
  | (.blank, _) => .ok done
  | (.expression, statement) =>
    match done with
    | [] => .error (.ofFault .expressionFirst o.file raw n)
    | a :: before => do
      let e ← readExpression o ops n raw statement
      return a.add e :: before
  | (.assignment, statement) =>
    match cut? colon statement with
    | none | some ([], _) => .error (.ofFault .missingColon o.file statement n)
    | some (name, after) =>
      let rest := trim after
      if rest = [] then .ok (⟨name, n, []⟩ :: done)
      else do
        let e ← readExpression o ops n raw rest
        return ⟨name, n, [e]⟩ :: done

def lineEvent (n : Nat) (raw : Text) : ParseEvent :=
  let (kind, statement) := Line.classify o.allowTab raw
  .classified n kind statement

def readLines : (n : Nat) → (done : List Assignment) → List Text →
    List ParseEvent × Except Diagnostic (List Assignment)
  | _, done, [] => ([], .ok done)
  | n, done, raw :: rest =>
    let event := lineEvent o (n + 1) raw
    match readLine o ops done (n + 1) raw with
    | .error d => ([event], .error d)
    | .ok done =>
      let (events, result) := readLines (n + 1) done rest
      (event :: events, result)

def complete (done : List Assignment) : Except Diagnostic Script :=
  if done = [] then .error (.ofFault .noAssignments o.file [] 0) else .ok done.reverse

/-- Reads a complete text, with the trace of the reading. -/
def traceText (t : Text) : List ParseEvent × Except Diagnostic Script :=
  let lines := Line.dropMark (Line.all t)
  let (events, found) := readLines o o.table 0 [] lines
  match found.bind (complete o) with
  | .ok s => (events ++ [.finished s.length lines.length], .ok s)
  | .error d => (events, .error d)

def parse (t : Text) : Except Diagnostic Script := (traceText o t).2

/-- Reads the terminated lines of a text that was cut short by a failure. -/
def traceCut (t : Text) (f : SourceFailure) : List ParseEvent × ReadError :=
  let (events, found) := readLines o o.table 0 [] (Line.dropMark (Line.terminated t).1)
  match found with
  | .ok _ => (events, .failure f)
  | .error d => (events, .diagnostic d)

def trace (d : Delivery) : List ParseEvent × Except ReadError Script :=
  match d.failure.filter (!·.meansEnd) with
  | some f => let (events, e) := traceCut o d.bytes f; (events, .error e)
  | none => let (events, r) := traceText o d.bytes; (events, r.mapError .diagnostic)

def decode (d : Delivery) : Except ReadError Script := (trace o d).2

end Script
end RouteScript
