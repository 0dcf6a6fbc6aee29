import RouteScript.Yaml.Input

/-!
# Positions in a document

A cursor is a place in the characters of a document together with those characters. Moving it keeps
count of characters, lines and columns, all from zero, and of the line ends since the last character
that was not blank. Looking further than a block that could be decoded is a fault.
-/

namespace RouteScript.Yaml

open Text

structure Fault where
  line? : Option Nat
  message : Text
  deriving DecidableEq, Repr

/-- A place in a document, counted from zero. -/
structure Mark where
  index : Nat := 0
  line : Nat := 0
  column : Nat := 0
  deriving DecidableEq, Repr

namespace Fault

/-- The line that a fault names: that of the construct it spoils or, if that starts on the first line,
the line it was noticed on. The first line is never named. -/
def namedLine? (start place : Nat) : Option Nat :=
  if start ≠ 0 then some start else if place ≠ 0 then some place else none

def general (message : Text) : Fault := ⟨none, message⟩

/-- A character out of place in a construct; lines are named from one. -/
def lexical (start place : Mark) (message : String) : Fault :=
  ⟨(namedLine? start.line place.line).map (· + 1), utf8 message⟩

/-- A part out of place in a construct, both given by their lines; lines are named from zero. -/
def structural (start place : Nat) (message : String) : Fault :=
  ⟨namedLine? start place, utf8 message⟩

def render (f : Fault) : Text :=
  utf8 "yaml: " ++ (match f.line? with
    | some n => utf8 "line " ++ decimal n ++ utf8 ": "
    | none => []) ++ f.message

end Fault

structure Cursor where
  rest : List Char
  fault? : Option String
  /-- Lines that start before this index lose their first character. -/
  marked : Nat
  mark : Mark := {}
  /-- Line ends since the last character that was not blank. -/
  newlines : Nat := 0

namespace Cursor

def ofInput (i : Input) : Cursor := { rest := i.chars, fault? := i.fault?, marked := i.marked }

def look (c : Cursor) (n : Nat) : Char := (c.rest[n]?).getD endChar

def next (c : Cursor) : Char := c.look 0

/-- Makes sure that so many characters can be looked at. -/
def ensure (c : Cursor) (n : Nat) : Except Fault Unit :=
  match c.fault? with
  | some complaint => if c.rest.length < n then .error (.general (utf8 complaint)) else .ok ()
  | none => .ok ()

def skip (c : Cursor) (n : Nat) : Cursor :=
  { c with
    rest := c.rest.drop n
    mark := { c.mark with index := c.mark.index + n, column := c.mark.column + n }
    newlines := if (c.rest.take n).all isBlank then c.newlines else 0 }

def skipWhile (c : Cursor) (p : Char → Bool) : Cursor := c.skip (c.rest.takeWhile p).length

def breakWidth (c : Cursor) : Nat :=
  if c.next = '\r' ∧ c.look 1 = '\n' then 2 else if isBreak c.next then 1 else 0

def skipBreak (c : Cursor) : Cursor :=
  let w := c.breakWidth
  if w = 0 then c
  else { c with
    rest := c.rest.drop w
    mark := ⟨c.mark.index + w, c.mark.line + 1, 0⟩
    newlines := c.newlines + 1 }

/-- The next line end as text: line and paragraph separators are kept, all others are line feeds. -/
def breakText (c : Cursor) : Text :=
  if c.breakWidth = 0 then []
  else if 0x2000 ≤ c.next.toNat then String.utf8EncodeChar c.next
  else [lf]

/-- A document mark comes next: three dashes or dots at the start of a line, and a gap. -/
def atDocumentMark (c : Cursor) : Bool :=
  c.mark.column == 0 &&
    (c.rest.take 3 == ['-', '-', '-'] || c.rest.take 3 == ['.', '.', '.']) && isGap (c.look 3)

def toLineEnd (c : Cursor) : Except Fault Cursor := do
  let c := c.skipWhile fun ch => !isLineEnd ch
  c.ensure 1
  return c

def skipTo (index : Nat) : (fuel : Nat) → Cursor → Cursor
  | 0, c => c
  | fuel + 1, c =>
    if index ≤ c.mark.index then c
    else skipTo index fuel (if c.breakWidth = 0 then c.skip 1 else c.skipBreak)

/-- How far comments are looked for behind others. -/
def commentReach : Nat := 511

/-- The number of characters between the end of a comment line and the next comment, if only blanks and
line ends stand between them. -/
def commentGap? (c : Cursor) : Option Nat :=
  if c.next.toNat < 0x80 then
    let gap := ((c.rest.drop 1).take commentReach).takeWhile fun ch =>
      isBlank ch || ch == '\n' || ch == '\r'
    if gap.length < commentReach ∧ c.look (gap.length + 1) = '#' then some (gap.length + 1) else none
  else none

def skipComments : (fuel : Nat) → Cursor → Except Fault Cursor
  | 0, c => .ok c
  | fuel + 1, c => do
    let c ← c.toLineEnd
    match c.commentGap? with
    | some n => skipComments fuel (skipTo (c.mark.index + n) n c)
    | none => return c

/-- Moves over a comment at the end of a line, unless a line end was just read. -/
def skipLineComment (c : Cursor) : Except Fault Cursor :=
  if c.newlines ≠ 0 then .ok c
  else
    let d := c.skipWhile isBlank
    if d.next = '#' ∧ d.mark.index < c.mark.index + commentReach + 1 then d.toLineEnd else .ok c

end Cursor
end RouteScript.Yaml
