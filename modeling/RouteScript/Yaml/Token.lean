import RouteScript.Yaml.Tag

/-!
# Tokens

A document as a row of tokens. Indentation is turned into tokens that open and close collections. A
scalar, or a collection between brackets, turns out to be a key only at the colon behind it, so that
the tokens in front of a key are put in later: tokens are given out only once they are settled, and
the lexer reads ahead until they are.
-/

namespace RouteScript.Yaml

open Text

inductive TokenKind where
  | streamStart
  | streamEnd
  | directive (d : Directive)
  | documentStart
  | documentEnd
  | blockSequenceStart
  | blockMappingStart
  | blockEnd
  | flowSequenceStart
  | flowSequenceEnd
  | flowMappingStart
  | flowMappingEnd
  | blockEntry
  | flowEntry
  | key
  | value
  | alias (name : Text)
  | anchor (name : Text)
  | tag (t : Tag)
  | scalar (plain : Bool) (value : Text)
  deriving DecidableEq, Repr

/-- A token and the line it starts on, from zero. -/
structure Token where
  kind : TokenKind
  line : Nat
  deriving DecidableEq, Repr

/-- What may turn out to be a key: the number of its first token and the place it starts at. -/
structure KeyCandidate where
  possible : Bool := false
  /-- It stands where nothing but a key can stand. -/
  required : Bool := false
  /-- Its token must not be given out before it is settled. -/
  awaited : Bool := false
  number : Nat := 0
  mark : Mark := {}

def keyReach : Nat := 1024

/-- A key is written on one line, and not too long. -/
def KeyCandidate.isStale (k : KeyCandidate) (m : Mark) : Bool :=
  k.mark.line < m.line || k.mark.index + keyReach < m.index

def KeyCandidate.lacksColon (k : KeyCandidate) (m : Mark) : Fault :=
  .lexical k.mark m "could not find expected ':'"

def KeyCandidate.isValid (k : KeyCandidate) (m : Mark) : Except Fault Bool :=
  if !k.possible then .ok false
  else if !k.isStale m then .ok true
  else if k.required then .error (k.lacksColon m)
  else .ok false

structure Lexer where
  cursor : Cursor
  tokens : Array Token := #[]
  /-- The number of tokens that are given out. -/
  settled : Nat := 0
  /-- The column of the innermost block collection, or -1. -/
  indent : Int := -1
  indents : List Int := []
  flow : Nat := 0
  keyAllowed : Bool := true
  candidate : KeyCandidate := {}
  outer : List KeyCandidate := []

namespace Lexer

def depthLimit : Nat := 10000

def misplaced {α : Type} (l : Lexer) (message : String) : Except Fault α :=
  .error (.lexical l.cursor.mark l.cursor.mark message)

def push (l : Lexer) (kind : TokenKind) (line : Nat) : Lexer :=
  { l with tokens := l.tokens.push ⟨kind, line⟩ }

/-- Puts a token in front of the one of a number, if that is not given out. -/
def insert (l : Lexer) (number : Nat) (t : Token) : Lexer :=
  if number < l.settled then { l with tokens := l.tokens.push t }
  else { l with tokens := l.tokens.insertIdxIfInBounds number t }

def dropCandidate (l : Lexer) : Except Fault Lexer :=
  let k := l.candidate
  if !k.possible then .ok l
  else if k.required then .error (k.lacksColon l.cursor.mark)
  else .ok { l with candidate := { k with possible := false, awaited := false } }

def noteCandidate (l : Lexer) : Except Fault Lexer :=
  if !l.keyAllowed then .ok l
  else do
    let l ← l.dropCandidate
    let m := l.cursor.mark
    return { l with
      candidate := ⟨true, l.flow == 0 && l.indent == m.column, true, l.tokens.size, m⟩ }

def enterFlow (l : Lexer) : Except Fault Lexer :=
  if depthLimit < l.flow + 1 then
    l.misplaced "exceeded max depth of 10000"
  else .ok { l with
    flow := l.flow + 1
    outer := l.candidate :: l.outer
    candidate := { number := l.tokens.size, mark := l.cursor.mark } }

/-- Leaves a bracket. A bracket in which nothing was a candidate is awaited no longer. -/
def leaveFlow (l : Lexer) : Lexer :=
  match l.outer with
  | [] => l
  | k :: outer =>
    { l with
      flow := l.flow - 1
      outer
      candidate := if k.number = l.candidate.number then { k with awaited := false } else k }

/-- Closes the block collections that are indented by more than a column. -/
def unrollFrom (column : Int) (line : Nat) : List Int → Lexer → Lexer
  | [], l => l
  | indent :: indents, l =>
    if column < l.indent then
      unrollFrom column line indents ({ l with indent, indents }.push .blockEnd line)
    else l

def unroll (l : Lexer) (column : Int) (line : Nat) : Lexer :=
  if l.flow = 0 then unrollFrom column line l.indents l else l

/-- Opens a block collection at a column that is indented by more than the innermost one. -/
def roll (l : Lexer) (column number : Nat) (kind : TokenKind) (line : Nat) : Except Fault Lexer :=
  if l.flow ≠ 0 ∨ (column : Int) ≤ l.indent then .ok l
  else if depthLimit ≤ l.indents.length then
    .error (.lexical l.candidate.mark l.cursor.mark "exceeded max depth of 10000")
  else .ok ({ l with indent := column, indents := l.indent :: l.indents }.insert number ⟨kind, line⟩)

def sign (l : Lexer) (kind : TokenKind) : Lexer :=
  { l.push kind l.cursor.mark.line with cursor := l.cursor.skip 1 }

/-- Ends everything that is open, in front of a directive or a mark between documents. -/
def closeAll (l : Lexer) : Except Fault Lexer := do
  let l ← (l.unroll (-1) l.cursor.mark.line).dropCandidate
  return { l with keyAllowed := false }

def atEnd (l : Lexer) : Except Fault Lexer := do
  let m := l.cursor.mark
  let m := if m.column = 0 then m else { m with line := m.line + 1, column := 0 }
  let l ← { l with cursor := { l.cursor with mark := m } }.closeAll
  return l.push .streamEnd m.line

def directive (l : Lexer) : Except Fault Lexer := do
  let l ← l.closeAll
  let (d, c) ← Yaml.directive l.cursor
  return { l.push (.directive d) l.cursor.mark.line with cursor := c }

def documentMark (l : Lexer) (kind : TokenKind) : Except Fault Lexer := do
  let l ← l.closeAll
  return { l.push kind l.cursor.mark.line with cursor := l.cursor.skip 3 }

def openFlow (l : Lexer) (kind : TokenKind) : Except Fault Lexer := do
  let l ← (← l.noteCandidate).enterFlow
  return { l with keyAllowed := true }.sign kind

def closeFlow (l : Lexer) (kind : TokenKind) : Except Fault Lexer := do
  let l ← l.dropCandidate
  return { l.leaveFlow with keyAllowed := false }.sign kind

def flowEntry (l : Lexer) : Except Fault Lexer := do
  let l ← l.dropCandidate
  return { l with keyAllowed := true }.sign .flowEntry

/-- Opens the block collection that a sign at this place belongs to, if it is not open. -/
def openBlock (l : Lexer) (kind : TokenKind) (complaint : String) : Except Fault Lexer :=
  if l.flow ≠ 0 then .ok l
  else if !l.keyAllowed then l.misplaced complaint
  else l.roll l.cursor.mark.column l.tokens.size kind l.cursor.mark.line

def blockEntry (l : Lexer) : Except Fault Lexer := do
  let l ← l.openBlock .blockSequenceStart "block sequence entries are not allowed in this context"
  let l ← l.dropCandidate
  return { l with keyAllowed := true }.sign .blockEntry

def key (l : Lexer) : Except Fault Lexer := do
  let l ← l.openBlock .blockMappingStart "mapping keys are not allowed in this context"
  let l ← l.dropCandidate
  return { l with keyAllowed := l.flow == 0 }.sign .key

/-- The colon of a value; it makes a key of the candidate. -/
def value (l : Lexer) : Except Fault Lexer := do
  let k := l.candidate
  if ← k.isValid l.cursor.mark then
    let l ← (l.insert k.number ⟨.key, k.mark.line⟩).roll k.mark.column k.number .blockMappingStart
      k.mark.line
    return { l with
      candidate := { l.candidate with possible := false, awaited := false }
      keyAllowed := false }.sign .value
  else
    let l ← l.openBlock .blockMappingStart "mapping values are not allowed in this context"
    return { l with keyAllowed := l.flow == 0 }.sign .value

/-- A token that may be a key or the start of one, and behind which no key may start at once. -/
def lexeme (l : Lexer) (read : Cursor → Except Fault (TokenKind × Cursor)) : Except Fault Lexer := do
  let l ← l.noteCandidate
  let (kind, cursor) ← read l.cursor
  return { l.push kind l.cursor.mark.line with cursor, keyAllowed := false }

def blockText (l : Lexer) (folded : Bool) : Except Fault Lexer := do
  let l ← l.dropCandidate
  let (t, cursor) ← blockScalar folded l.indent l.cursor
  return { l.push (.scalar false t) l.cursor.mark.line with cursor, keyAllowed := true }

/-- A plain scalar; a key may follow it on a later line. -/
def plain (l : Lexer) : Except Fault Lexer := do
  let l ← l.noteCandidate
  let (t, broken, cursor) ← plainScalar (l.flow != 0) (l.indent + 1) l.cursor
  return { l.push (.scalar true t) l.cursor.mark.line with cursor, keyAllowed := broken }

def skipToToken : (fuel : Nat) → Lexer → Except Fault Lexer
  | 0, l => .ok l
  | fuel + 1, l => do
    let c := l.cursor
    c.ensure 1
    let c := if c.mark.column = 0 ∧ c.mark.index < c.marked then c.skip 1 else c
    let tabs := l.flow ≠ 0 ∨ !l.keyAllowed
    let c := c.skipWhile fun ch => ch == ' ' || (tabs && ch == '\t')
    c.ensure 1
    let c ← if c.next = '#' then c.skipComments (c.rest.length + 1) else pure c
    if isBreak c.next then do
      c.ensure 2
      skipToToken fuel { l with
        cursor := c.skipBreak
        keyAllowed := l.keyAllowed || l.flow == 0 }
    else return { l with cursor := c }

/-- The characters that say something where a token starts. -/
def signs : List Char :=
  ['-', '?', ':', ',', '[', ']', '\x7b', '\x7d', '#', '&', '*', '!', '|', '>', '\'', '"', '%', '@',
    '\x60']

def startsPlain (c : Char) : Bool := !isGap c && !signs.contains c

def token (l : Lexer) : Except Fault Lexer :=
  let c := l.cursor.next
  let gap := isGap (l.cursor.look 1)
  let block := l.flow == 0
  if c = '[' then l.openFlow .flowSequenceStart
  else if c = '\x7b' then l.openFlow .flowMappingStart
  else if c = ']' then l.closeFlow .flowSequenceEnd
  else if c = '\x7d' then l.closeFlow .flowMappingEnd
  else if c = ',' then l.flowEntry
  else if c = '-' ∧ gap then l.blockEntry
  else if c = '?' ∧ (!block ∨ gap) then l.key
  else if c = ':' ∧ (!block ∨ gap) then l.value
  else if c = '*' then l.lexeme fun k => (anchorName k).map fun r => (.alias r.1, r.2)
  else if c = '&' then l.lexeme fun k => (anchorName k).map fun r => (.anchor r.1, r.2)
  else if c = '!' then l.lexeme fun k => (Yaml.tag k).map fun r => (.tag r.1, r.2)
  else if c = '|' ∧ block then l.blockText false
  else if c = '>' ∧ block then l.blockText true
  else if c = '\'' then l.lexeme fun k => (quotedScalar true k).map fun r => (.scalar false r.1, r.2)
  else if c = '"' then l.lexeme fun k => (quotedScalar false k).map fun r => (.scalar false r.1, r.2)
  else if startsPlain c ∨ c = '-' ∨ (block ∧ (c = '?' ∨ c = ':')) then l.plain
  else l.misplaced "found character that cannot start any token"

/-- Reads one more token, and the tokens that its column and its colon call for. -/
def fetch (l : Lexer) : Except Fault Lexer := do
  l.cursor.ensure 1
  if l.tokens.isEmpty then return l.push .streamStart 0
  let line := l.cursor.mark.line
  let l ← skipToToken (l.cursor.rest.length + 1) l
  let l := l.unroll l.cursor.mark.column line
  let c := l.cursor
  c.ensure 4
  if c.next = endChar then l.atEnd
  else if c.mark.column = 0 ∧ c.next = '%' then l.directive
  else if c.atDocumentMark then l.documentMark (if c.next = '-' then .documentStart else .documentEnd)
  else
    let l ← l.token
    if l.tokens.back?.any fun t => t.kind == .blockEntry then return l
    else return { l with cursor := ← l.cursor.skipLineComment }

/-- The next token to be given out must wait: too few tokens follow it, or it may turn out to be a
key. -/
def mustWait (l : Lexer) : Except Fault Bool :=
  if l.tokens.size ≤ l.settled + 2 then .ok true
  else
    match (l.candidate :: l.outer).find? fun k => k.awaited && k.number == l.settled with
    | some k => k.isValid l.cursor.mark
    | none => .ok false

def run : (fuel : Nat) → Lexer → Lexer × Option Fault
  | 0, l => (l, none)
  | fuel + 1, l =>
    match l.mustWait with
    | .error f => (l, some f)
    | .ok true =>
      match l.fetch with
      | .error f => (l, some f)
      | .ok l => run fuel l
    | .ok false =>
      let last := l.tokens[l.settled]?.any fun t => t.kind == .streamEnd
      let l := { l with settled := l.settled + 1 }
      if last then (l, none) else run fuel l

end Lexer

/-- The tokens of a document, up to its end or to the fault that is given with them. Every character
accounts for a token, a key, and the opening and closing of a collection, so the fuel suffices. -/
def tokens (t : Text) : List Token × Option Fault :=
  let c := Cursor.ofInput (Input.ofBytes t)
  let (l, fault?) := Lexer.run (10 * c.rest.length + 32) { cursor := c }
  (l.tokens.toList.take l.settled, fault?)

end RouteScript.Yaml
