import RouteScript.Script
import RouteScript.Text.Quoted

/-!
# Writing scripts

A draft is written piece by piece: every assignment on a line of its own, the first expression behind
the colon if it was declared there, the others indented below. Whatever could not be read back is
refused, and the pieces written before the refusal are kept, since a writer that streams them has
already sent them.
-/

namespace RouteScript

open Text

structure FormatOptions where
  indent : Text := []
  blankLines : Bool := false
  deriving DecidableEq, Repr

namespace FormatOptions

def isIndentByte (b : UInt8) : Bool := b == space || b == tab

/-- The indentation in use: two spaces unless the one asked for starts with a space and has only
spaces and tabs. -/
def usedIndent (o : FormatOptions) : Text :=
  if o.indent.head? = some space ∧ o.indent.all isIndentByte then o.indent else [space, space]

end FormatOptions

inductive FormatFault where
  | vacantEntry (index : Nat)
  | emptyName
  | indentedName (name : Text)
  | reservedInName (name : Text)
  | paddedValue (name value : Text)
  | reservedInValue (name value : Text)
  | questionInValue (name value : Text)
  | invalidToken (name token : Text)
  deriving DecidableEq, Repr

def FormatFault.message (f : FormatFault) : Text :=
  utf8 "format error: " ++ match f with
  | .vacantEntry i => utf8 "nil assignment at index " ++ decimal i
  | .emptyName => utf8 "empty assignment name"
  | .indentedName n => utf8 "assignment name " ++ quoted n ++ utf8 " has leading blanks"
  | .reservedInName n => utf8 "assignment name " ++ quoted n ++ utf8 " contains a reserved character"
  | .paddedValue n v => n ++ utf8 ": empty or padded value " ++ quoted v
  | .reservedInValue n v => n ++ utf8 ": value " ++ quoted v ++ utf8 " contains a reserved character"
  | .questionInValue n v => n ++ utf8 ": unconditional value " ++ quoted v ++ utf8 " contains '?'"
  | .invalidToken n t => n ++ utf8 ": invalid condition token " ++ quoted t

def nameFault? (name : Text) : Option FormatFault :=
  if trim name = [] then some .emptyName
  else if (name.head?.any FormatOptions.isIndentByte) then some (.indentedName name)
  else if name.holdsAny [colon, hashSign, cr, lf] then some (.reservedInName name)
  else none

def isInvalidToken (t : Text) : Bool := !isSingle t || t.holdsAny [question, hashSign]

def expressionFault? (name : Text) (e : Expression) : Option FormatFault :=
  if trim e.value = [] ∨ trim e.value ≠ e.value then some (.paddedValue name e.value)
  else if e.value.holdsAny [hashSign, cr, lf] then some (.reservedInValue name e.value)
  else match e.condition with
    | none => if question ∈ e.value then some (.questionInValue name e.value) else none
    | some c => ([c.left, c.operator, c.right].find? isInvalidToken).map (.invalidToken name)

/-- The pieces written one after another, and the fault that ended the writing if one did. -/
structure Pieces where
  texts : List Text
  fault : Option FormatFault
  deriving DecidableEq, Repr

namespace Pieces

def one (t : Text) : Pieces := ⟨[t], none⟩

def nothing : Pieces := ⟨[], none⟩

/-- Writing goes on unless it was ended by a fault. -/
def andThen (p q : Pieces) : Pieces :=
  match p.fault with
  | some _ => p
  | none => ⟨p.texts ++ q.texts, q.fault⟩

def checked (fault : Option FormatFault) (p : Pieces) : Pieces :=
  match fault with
  | some f => ⟨[], some f⟩
  | none => p

def all : List Pieces → Pieces
  | [] => nothing
  | p :: ps => p.andThen (all ps)

def text (p : Pieces) : Text := p.texts.flatten

end Pieces

namespace Draft

open Pieces

variable (o : FormatOptions)

def indentedPieces (name : Text) (e : Expression) : Pieces :=
  checked (expressionFault? name e) (one (o.usedIndent ++ e.render ++ [lf]))

def assignmentPieces (a : Assignment) : Pieces :=
  let (inline, indented) :=
    match a.expressions with
    | [] => (nothing, [])
    | e :: es =>
      if e.line = a.line then
        (checked (expressionFault? a.name e) (one ([space] ++ e.render)), es)
      else (nothing, e :: es)
  checked (nameFault? a.name) <|
    (one (a.name ++ [colon])).andThen <| inline.andThen <| (one [lf]).andThen <|
      all (indented.map (indentedPieces o a.name))

def piecesFrom : (i : Nat) → Draft → Pieces
  | _, [] => nothing
  | i, none :: _ => ⟨[], some (.vacantEntry i)⟩
  | i, some a :: rest =>
    let gap := if i ≠ 0 && o.blankLines then one [lf] else nothing
    gap.andThen <| (assignmentPieces o a).andThen <| piecesFrom (i + 1) rest

def pieces (d : Draft) : Pieces := piecesFrom o 0 d

def format (d : Draft) : Except FormatFault Text :=
  let p := pieces o d
  match p.fault with
  | some f => .error f
  | none => .ok p.text

end Draft

def Script.format (o : FormatOptions) (s : Script) : Except FormatFault Text :=
  Draft.format o s.draft

end RouteScript
