import RouteScript.Text.Basic

/-!
# Comma-separated records

One record of fields with commas between them. A field in quotation marks may hold commas, line ends
and doubled quotation marks. Empty lines in front of the record are skipped and lines behind it are
not looked at.
-/

namespace RouteScript.Record

open Text

inductive Fault where
  | missing
  /-- A quotation mark in a field that does not start with one. -/
  | bareQuote (startLine line column : Nat)
  /-- A quotation mark that ends a field too early, or none that ends it. -/
  | strayQuote (startLine line column : Nat)
  deriving DecidableEq, Repr

def positionText (startLine line column : Nat) : Text :=
  (if startLine = line then [] else utf8 "record on line " ++ decimal startLine ++ utf8 "; ")
    ++ utf8 "parse error on line " ++ decimal line ++ utf8 ", column " ++ decimal column ++ utf8 ": "

def Fault.message : Fault → Text
  | .missing => utf8 "EOF"
  | .bareQuote s l c => positionText s l c ++ utf8 "bare \" in non-quoted-field"
  | .strayQuote s l c => positionText s l c ++ utf8 "extraneous or missing \" in quoted-field"

/-- The line feed at the end of a line does not count as content. -/
def content (line : Text) : Text := dropEnding line [lf]

/-- The lines of a text with their line feeds; a carriage return at the end of a line is dropped. Only
the last line can be empty, when nothing but a carriage return is left of it. -/
def lines (t : Text) : List Text :=
  let rec build : List Text → List Text
    | [] => []
    | [l] => if l = [] then [] else [dropEnding l [cr]]
    | l :: ls => (dropEnding l [cr] ++ [lf]) :: build ls
  build (splitAt lf t)

structure Position where
  rest : Text
  later : List Text
  line : Nat
  column : Nat

mutual

def fieldsFrom (startLine : Nat) : (fuel : Nat) → Position → Except Fault (List Text)
  | 0, _ => .ok []
  | fuel + 1, p =>
    match p.rest with
    | quote :: t => quotedFrom startLine fuel [] { p with rest := t, column := p.column + 1 }
    | t =>
      let (field, behind) :=
        match cut? comma t with
        | some (f, r) => (f, some r)
        | none => (content t, none)
      match cut? quote field with
      | some (before, _) => .error (.bareQuote startLine p.line (p.column + before.length))
      | none =>
        match behind with
        | none => .ok [field]
        | some r => do
          let more ← fieldsFrom startLine fuel
            { p with rest := r, column := p.column + field.length + 1 }
          return field :: more

/-- The fields from a position inside a quoted field on, of which some is already read. -/
def quotedFrom (startLine : Nat) : (fuel : Nat) → (field : Text) → Position →
    Except Fault (List Text)
  | 0, field, _ => .ok [field]
  | fuel + 1, field, p =>
    match cut? quote p.rest with
    | some (before, t) =>
      let field := field ++ before
      let column := p.column + before.length + 1
      match t with
      | quote :: t =>
        quotedFrom startLine fuel (field ++ [quote]) { p with rest := t, column := column + 1 }
      | comma :: t => do
        let more ← fieldsFrom startLine fuel { p with rest := t, column := column + 1 }
        return field :: more
      | t =>
        if content t = [] then .ok [field]
        else .error (.strayQuote startLine p.line (column - 1))
    | none =>
      match p.rest, p.later with
      | [], _ => .error (.strayQuote startLine p.line p.column)
      | t, [] | t, [] :: _ => .error (.strayQuote startLine p.line (p.column + t.length))
      | t, l :: ls => quotedFrom startLine fuel (field ++ t) ⟨l, ls, p.line + 1, 1⟩

end

/-- The first line with content is the start of the record. -/
def skipEmpty : (line : Nat) → List Text → Option Position
  | _, [] => none
  | n, l :: ls => if content l = [] then skipEmpty (n + 1) ls else some ⟨l, ls, n, 1⟩

def read (t : Text) : Except Fault (List Text) :=
  match skipEmpty 1 (lines t) with
  | none => .error .missing
  | some p => fieldsFrom p.line (2 * t.length + 2) p

end RouteScript.Record
