import RouteScript.Yaml.Cursor

/-!
# Scalars of several lines

The text of a scalar may go on over several lines. Between the lines of plain and quoted scalars a
single line end is a space, and of several line ends the first is left out. The lines of literal text
are kept, those of folded text are joined where they start without a blank.
-/

namespace RouteScript.Yaml

open Text

/-- What stands between two words of a scalar. -/
structure Gap where
  broken : Bool := false
  first : Text := []
  more : Text := []
  blanks : Text := []

namespace Gap

def text (g : Gap) : Text :=
  if !g.broken then g.blanks
  else if g.first.head? = some lf then (if g.more = [] then [space] else g.more)
  else g.first ++ g.more

def addBlank (g : Gap) (c : Char) : Gap :=
  if g.broken then g else { g with blanks := g.blanks ++ String.utf8EncodeChar c }

def addBreak (g : Gap) (t : Text) : Gap :=
  if g.broken then { g with more := g.more ++ t }
  else { g with broken := true, first := g.first ++ t, blanks := [] }

end Gap

/-- Reads blanks and line ends. A tab must not stand in the first `indent` columns of a line. -/
def readGap (indent : Int) (start : Mark) :
    (fuel : Nat) → Gap → Cursor → Except Fault (Gap × Cursor)
  | 0, g, c => .ok (g, c)
  | fuel + 1, g, c => do
    c.ensure 1
    if isBlank c.next then
      if g.broken ∧ c.mark.column < indent ∧ c.next = '\t' then
        .error (.lexical start c.mark "found a tab character that violates indentation")
      else readGap indent start fuel (g.addBlank c.next) (c.skip 1)
    else if isBreak c.next then do
      c.ensure 2
      readGap indent start fuel (g.addBreak c.breakText) c.skipBreak
    else return (g, c)

/-- The characters up to a blank, a colon before a gap, or in a flow collection an indicator. -/
def plainWord (flow : Bool) : List Char → List Char
  | [] => []
  | c :: cs =>
    if isGap c ∨ (c = ':' ∧ isGap (cs.headD endChar)) ∨ (flow ∧ isFlowIndicator c) then []
    else c :: plainWord flow cs

/-- The rest of a plain scalar behind some text and a gap. Outside flow collections its lines are
indented by `indent`. -/
def plainRest (flow : Bool) (indent : Int) (start : Mark) :
    (fuel : Nat) → Text → Gap → Cursor → Except Fault (Text × Gap × Cursor)
  | 0, t, g, c => .ok (t, g, c)
  | fuel + 1, t, g, c => do
    c.ensure 4
    if c.atDocumentMark ∨ c.next = '#' then return (t, g, c)
    else
      let word := plainWord flow c.rest
      let d := c.skip word.length
      let (t, g) := if word = [] then (t, g) else (t ++ g.text ++ encode word, ({} : Gap))
      if word ≠ [] then d.ensure 2
      if !(isBlank d.next || isBreak d.next) then return (t, g, d)
      else
        let (g, d) ← readGap indent start (d.rest.length + 1) g d
        if !flow ∧ d.mark.column < indent then return (t, g, d)
        else plainRest flow indent start fuel t g d

/-- A plain scalar, and whether line ends were read behind it. -/
def plainScalar (flow : Bool) (indent : Int) (c : Cursor) :
    Except Fault (Text × Bool × Cursor) := do
  let (t, g, c) ← plainRest flow indent c.mark (c.rest.length + 1) [] {} c
  return (t, g.broken, c)

def shortEscape? (c : Char) : Option Nat :=
  match c.toNat with
  | 0x30 => some 0x00
  | 0x61 => some 0x07
  | 0x62 => some 0x08
  | 0x74 => some 0x09
  | 0x09 => some 0x09
  | 0x6E => some 0x0A
  | 0x76 => some 0x0B
  | 0x66 => some 0x0C
  | 0x72 => some 0x0D
  | 0x65 => some 0x1B
  | 0x20 => some 0x20
  | 0x22 => some 0x22
  | 0x27 => some 0x27
  | 0x5C => some 0x5C
  | 0x4E => some 0x85
  | 0x5F => some 0xA0
  | 0x4C => some 0x2028
  | 0x50 => some 0x2029
  | _ => none

def escapeWidth? (c : Char) : Option Nat :=
  if c = 'x' then some 2 else if c = 'u' then some 4 else if c = 'U' then some 8 else none

def hexNumber? (cs : List Char) : Option Nat :=
  cs.foldl (fun n c => n.bind fun n => (hexValue? c).map (n * 16 + ·)) (some 0)

/-- An escape behind its backslash: the bytes it stands for and the number of its characters. -/
def escape (start : Mark) (c : Cursor) : Except Fault (Text × Nat) :=
  match shortEscape? c.next, escapeWidth? c.next with
  | some n, _ => .ok (String.utf8EncodeChar (Char.ofNat n), 1)
  | none, some w =>
    let digits := (c.rest.drop 1).take w
    let place := (c.skip 1).mark
    match if digits.length = w then hexNumber? digits else none with
    | none => .error (.lexical start place "did not find expected hexdecimal number")
    | some n =>
      if n.isValidChar then .ok (String.utf8EncodeChar (Char.ofNat n), w + 1)
      else .error (.lexical start place "found invalid Unicode character escape code")
  | none, none => .error (.lexical start c.mark "found unknown escape character")

/-- Reads up to a gap, the closing mark, or an escaped line end; says whether it was the last. What is
read is kept newest byte first. -/
def quotedWord (single : Bool) (start : Mark) :
    (fuel : Nat) → (read : Text) → Cursor → Except Fault (Text × Bool × Cursor)
  | 0, read, c => .ok (read, false, c)
  | fuel + 1, read, c => do
    c.ensure 2
    let add (bytes : Text) : Text := bytes.reverseAux read
    if isGap c.next then return (read, false, c)
    else if single then
      if c.next = '\'' then
        if c.look 1 = '\'' then quotedWord single start fuel (add [apostrophe]) (c.skip 2)
        else return (read, false, c)
      else quotedWord single start fuel (add (String.utf8EncodeChar c.next)) (c.skip 1)
    else if c.next = '"' then return (read, false, c)
    else if c.next = '\\' then
      if isBreak (c.look 1) then do
        c.ensure 3
        return (read, true, (c.skip 1).skipBreak)
      else do
        let (bytes, width) ← escape start (c.skip 1)
        quotedWord single start fuel (add bytes) (c.skip (width + 1))
    else quotedWord single start fuel (add (String.utf8EncodeChar c.next)) (c.skip 1)

def quotedRest (single : Bool) (start : Mark) :
    (fuel : Nat) → (read : Text) → Cursor → Except Fault (Text × Cursor)
  | 0, read, c => .ok (read.reverse, c)
  | fuel + 1, read, c => do
    c.ensure 4
    if c.atDocumentMark then
      .error (.lexical start c.mark "found unexpected document indicator")
    else if c.next = endChar then
      .error (.lexical start c.mark "found unexpected end of stream")
    else
      let (read, broken, c) ← quotedWord single start (c.rest.length + 1) read c
      c.ensure 1
      if c.next = (if single then '\'' else '"') then return (read.reverse, c.skip 1)
      else
        let (g, c) ← readGap 0 start (c.rest.length + 1) { broken } c
        quotedRest single start fuel (g.text.reverseAux read) c

def quotedScalar (single : Bool) (c : Cursor) : Except Fault (Text × Cursor) :=
  quotedRest single c.mark (c.rest.length + 2) [] (c.skip 1)

inductive Chomping where
  | strip
  | clip
  | keep
  deriving DecidableEq, Repr

def chomping? (c : Cursor) : Option Chomping :=
  if c.next = '+' then some .keep else if c.next = '-' then some .strip else none

def increment (start : Mark) (c : Cursor) : Except Fault (Nat × Cursor) :=
  if c.next = '0' then
    .error (.lexical start c.mark "found an indentation indicator equal to 0")
  else if c.next.isDigit then .ok (c.next.toNat - 0x30, c.skip 1)
  else .ok (0, c)

/-- The signs behind the bar: chomping and indentation in either order. -/
def headingSigns (start : Mark) (c : Cursor) : Except Fault (Chomping × Nat × Cursor) := do
  c.ensure 1
  match chomping? c with
  | some k =>
    let c := c.skip 1
    c.ensure 1
    let (n, c) ← increment start c
    return (k, n, c)
  | none =>
    let (n, c) ← increment start c
    c.ensure 1
    match if n = 0 then none else chomping? c with
    | some k => return (k, n, c.skip 1)
    | none => return (.clip, n, c)

/-- Reads indentation and empty lines. While the indentation is still unknown, which is written as zero,
all spaces are read. Gives the line ends, the greatest column reached, and the place. -/
def emptyLines (start : Mark) (indent : Nat) :
    (fuel : Nat) → (breaks : Text) → (greatest : Nat) → Cursor → Except Fault (Text × Nat × Cursor)
  | 0, t, n, c => .ok (t, n, c)
  | fuel + 1, t, n, c => do
    let room := if indent = 0 then c.rest.length else indent - c.mark.column
    let c := c.skip ((c.rest.take room).takeWhile (· == ' ')).length
    c.ensure 1
    let n := max n c.mark.column
    if (indent = 0 ∨ c.mark.column < indent) ∧ c.next = '\t' then
      .error (.lexical start c.mark
        "found a tab character where an indentation space is expected")
    else if isBreak c.next then do
      c.ensure 2
      emptyLines start indent fuel (t ++ c.breakText) n c.skipBreak
    else return (t, n, c)

structure Lines where
  text : Text := []
  ending : Text := []
  /-- The ends of empty lines behind it. -/
  empty : Text := []
  blank : Bool := false

/-- The text before a further line: the last line end becomes a space or is left out where lines are
folded. -/
def Lines.before (folded blank : Bool) (ls : Lines) : Text :=
  let ending :=
    if folded ∧ !ls.blank ∧ !blank ∧ ls.ending.head? = some lf then
      (if ls.empty = [] then [space] else [])
    else ls.ending
  ls.text ++ ending ++ ls.empty

def blockLines (folded : Bool) (start : Mark) (indent : Nat) :
    (fuel : Nat) → Lines → Cursor → Except Fault (Lines × Cursor)
  | 0, ls, c => .ok (ls, c)
  | fuel + 1, ls, c => do
    if c.mark.column ≠ indent ∨ c.next = endChar then return (ls, c)
    else
      let blank := isBlank c.next
      let line := c.rest.takeWhile fun ch => !isLineEnd ch
      let d := c.skip line.length
      d.ensure 2
      let text := ls.before folded blank ++ encode line
      let ending := d.breakText
      let (empty, _, d) ← emptyLines start indent (d.rest.length + 1) [] 0 d.skipBreak
      blockLines folded start indent fuel ⟨text, ending, empty, blank⟩ d

/-- Literal or folded text below its bar; `above` is the indentation of what it belongs to. -/
def blockScalar (folded : Bool) (above : Int) (c : Cursor) : Except Fault (Text × Cursor) := do
  let start := c.mark
  let (chomping, extra, c) ← headingSigns start (c.skip 1)
  let c := c.skipWhile isBlank
  c.ensure 1
  let c ← if c.next = '#' then c.toLineEnd else pure c
  if !isLineEnd c.next then
    .error (.lexical start c.mark "did not find expected comment or line break")
  else
    c.ensure 2
    let c := c.skipBreak
    let given := if extra = 0 then 0 else above.toNat + extra
    let (empty, greatest, c) ← emptyLines start given (c.rest.length + 1) [] 0 c
    let indent := if given = 0 then max (max greatest (above + 1).toNat) 1 else given
    let (ls, c) ← blockLines folded start indent (c.rest.length + 1) { empty } c
    let t := match chomping with
      | .strip => ls.text
      | .clip => ls.text ++ ls.ending
      | .keep => ls.text ++ ls.ending ++ ls.empty
    return (t, c)

end RouteScript.Yaml
