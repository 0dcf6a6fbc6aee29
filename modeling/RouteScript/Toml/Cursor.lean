import RouteScript.Text.Quoted
import RouteScript.Text.Symbol

/-!
# Positions in a document

A cursor is what is left of a document and the line it starts on. Looking at a character that no
document may contain is a fault, so every reader below may fail.
-/

namespace RouteScript.Toml

open Text

/-- What is wrong with a document, and the line that is named for it. -/
structure Complaint where
  line : Nat
  message : Text
  deriving DecidableEq, Repr

structure Cursor where
  rest : List Symbol
  line : Nat := 1
  /-- The last character was a line feed. -/
  afterBreak : Bool := false

/-- A control character other than those that divide words and lines. -/
def isControl (c : Char) : Bool :=
  (c.toNat < 0x20 && c != '\t' && c != '\r' && c != '\n') || c.toNat == 0x7F

def isBlank (c : Char) : Bool := c == ' ' || c == '\t'

def isBreak (c : Char) : Bool := c == '\n' || c == '\r'

def isBare (c : Char) : Bool := c.isAlphanum || c == '_' || c == '-'

def isHexDigit (c : Char) : Bool := c.isDigit || ('a' ≤ c && c ≤ 'f') || ('A' ≤ c && c ≤ 'F')

def encode (cs : List Char) : Text := cs.flatMap String.utf8EncodeChar

/-- A character, or the end of the document, between single quotation marks. The end shows as the
character zero. -/
def shown (r : Option Char) : Text := quotedSingle (r.getD (Char.ofNat 0))

namespace Cursor

def fail {α : Type} (c : Cursor) (message : Text) : Except Complaint α := .error ⟨c.line, message⟩

def failAbove {α : Type} (c : Cursor) (message : Text) : Except Complaint α :=
  .error ⟨c.line - 1, message⟩

/-- A complaint about what was just read. The end of a document counts to its last line. -/
def refuse {α : Type} (c : Cursor) (r : Option Char) (message : Text) : Except Complaint α :=
  if r.isNone ∧ c.afterBreak then c.failAbove message else c.fail message

/-- Reads a character; there is none at the end. A carriage return must stand in front of a line
feed. -/
def next (c : Cursor) : Except Complaint (Option Char × Cursor) :=
  match c.rest with
  | [] => .ok (none, c)
  | .stray b :: _ => c.fail (utf8 "invalid UTF-8 byte: 0x" ++ hexLower 2 b.toNat)
  | .scalar ch :: rest =>
    if isControl ch ∨ (ch = '\r' ∧ rest.head? ≠ some (.scalar '\n')) then
      c.fail (utf8 "TOML files cannot contain control characters: '0x" ++ hexLower 2 ch.toNat
        ++ utf8 "'")
    else .ok (some ch, ⟨rest, if ch = '\n' then c.line + 1 else c.line, ch == '\n'⟩)

def peek (c : Cursor) : Except Complaint (Option Char) := c.next.map Prod.fst

def accept? (c : Cursor) (ch : Char) : Except Complaint (Option Cursor) := do
  let (r, d) ← c.next
  return if r = some ch then some d else none

def spanFrom (p : Char → Bool) : (fuel : Nat) → (read : List Char) → Cursor →
    Except Complaint (List Char × Cursor)
  | 0, read, c => .ok (read.reverse, c)
  | fuel + 1, read, c => do
    let (r, d) ← c.next
    match r with
    | some ch => if p ch then spanFrom p fuel (ch :: read) d else return (read.reverse, c)
    | none => return (read.reverse, c)

/-- Reads the characters of a class that come next, and looks at the one behind them. -/
def span (c : Cursor) (p : Char → Bool) : Except Complaint (List Char × Cursor) :=
  spanFrom p (c.rest.length + 1) [] c

def skipBlanks (c : Cursor) : Except Complaint Cursor := (c.span isBlank).map Prod.snd

def skipComment (c : Cursor) : Except Complaint Cursor :=
  (c.span fun ch => !isBreak ch).map Prod.snd

end Cursor
end RouteScript.Toml
