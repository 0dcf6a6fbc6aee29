import RouteScript.Yaml.ScalarText

/-!
# Names, tags and directives

The parts of a document that name things: anchors, the tags that give nodes a type, and the directives
in front of a document, which state a version or what the handle of a tag stands for.
-/

namespace RouteScript.Yaml

open Text

def endsName (c : Char) : Bool := isGap c || ['?', ':', ',', ']', '\x7d', '%', '@', '\x60'].contains c

def anchorName (c : Cursor) : Except Fault (Text × Cursor) := do
  let start := c.mark
  let c := c.skip 1
  let name := c.rest.takeWhile isWordChar
  let c := c.skip name.length
  c.ensure 1
  if name = [] ∨ !endsName c.next then
    .error (.lexical start c.mark "did not find expected alphabetic or numeric character")
  else return (encode name, c)

def isUriChar (c : Char) : Bool :=
  isWordChar c || [';', '/', '?', ':', '@', '&', '=', '+', '$', ',', '.', '!', '~', '*', '\'', '(', ')',
    '[', ']', '%'].contains c

def escapedByte (start : Mark) (c : Cursor) : Except Fault UInt8 := do
  c.ensure 3
  match if c.next = '%' then hexNumber? [c.look 1, c.look 2] else none with
  | some n => return UInt8.ofNat n
  | none => .error (.lexical start c.mark "did not find URI escaped octet")

def escapedTail (start : Mark) : Nat → Text → Cursor → Except Fault (Text × Cursor)
  | 0, t, c => .ok (t, c)
  | n + 1, t, c => do
    let b ← escapedByte start c
    if isContinuation b then escapedTail start n (t ++ [b]) (c.skip 3)
    else .error (.lexical start c.mark "found an incorrect trailing UTF-8 octet")

def escapedChar (start : Mark) (c : Cursor) : Except Fault (Text × Cursor) := do
  let b ← escapedByte start c
  match announcedWidth b with
  | 0 => .error (.lexical start c.mark "found an incorrect leading UTF-8 octet")
  | n + 1 => escapedTail start n [b] (c.skip 3)

def uriRest (start : Mark) : (fuel : Nat) → Text → Cursor → Except Fault (Text × Cursor)
  | 0, t, c => .ok (t, c)
  | fuel + 1, t, c => do
    c.ensure 1
    if c.next = '%' then
      let (bytes, c) ← escapedChar start c
      uriRest start fuel (t ++ bytes) c
    else if isUriChar c.next then
      uriRest start fuel (t ++ String.utf8EncodeChar c.next) (c.skip 1)
    else return (t, c)

/-- The text of a tag behind what was read of it, which lacks its exclamation mark here. -/
def uri (start : Mark) (head : Text) (c : Cursor) : Except Fault (Text × Cursor) := do
  let (t, d) ← uriRest start (c.rest.length + 1) (head.drop 1) c
  if head = [] ∧ d.mark.index = c.mark.index then
    .error (.lexical start d.mark "did not find expected tag URI")
  else return (t, d)

/-- A handle: an exclamation mark, or a word between two of them. What lacks the second one is the
start of a tag, but no handle for a directive. -/
def tagHandle (directive : Bool) (start : Mark) (c : Cursor) : Except Fault (Text × Cursor) := do
  c.ensure 1
  if c.next ≠ '!' then .error (.lexical start c.mark "did not find expected '!'")
  else
    let word := (c.rest.drop 1).takeWhile isWordChar
    let c := c.skip (word.length + 1)
    c.ensure 1
    if c.next = '!' then return (encode ('!' :: word ++ ['!']), c.skip 1)
    else if directive ∧ word ≠ [] then
      .error (.lexical start c.mark "did not find expected '!'")
    else return (encode ('!' :: word), c)

/-- A tag as it is written: a handle and what follows it. A tag in full has no handle. -/
structure Tag where
  handle : Text
  suffix : Text
  deriving DecidableEq, Repr

def exclamation : UInt8 := 0x21

def shortTag (start : Mark) (c : Cursor) : Except Fault (Tag × Cursor) := do
  let (handle, c) ← tagHandle false start c
  if 1 < handle.length ∧ handle.getLast? = some exclamation then
    let (suffix, c) ← uri start [] c
    return (⟨handle, suffix⟩, c)
  else
    let (suffix, c) ← uri start handle c
    return (if suffix = [] then ⟨[], [exclamation]⟩ else ⟨[exclamation], suffix⟩, c)

def fullTag (start : Mark) (c : Cursor) : Except Fault (Tag × Cursor) := do
  let (suffix, c) ← uri start [] (c.skip 2)
  if c.next ≠ '>' then .error (.lexical start c.mark "did not find the expected '>'")
  else return (⟨[], suffix⟩, c.skip 1)

def tag (c : Cursor) : Except Fault (Tag × Cursor) := do
  c.ensure 2
  let (t, d) ← if c.look 1 = '<' then fullTag c.mark c else shortTag c.mark c
  d.ensure 1
  if isGap d.next then return (t, d)
  else .error (.lexical c.mark d.mark "did not find expected whitespace or line break")

inductive Directive where
  | version (major minor : Nat)
  | handle (handle expansion : Text)
  deriving DecidableEq, Repr

/-- One number of a version, of at most two digits. -/
def versionNumber (start : Mark) (c : Cursor) : Except Fault (Nat × Cursor) := do
  let digits := c.rest.takeWhile Char.isDigit
  if 2 < digits.length then
    .error (.lexical start (c.skip 2).mark "found extremely long version number")
  else
    let d := c.skip digits.length
    d.ensure 1
    if digits = [] then .error (.lexical start d.mark "did not find expected version number")
    else return (digits.foldl (fun n ch => n * 10 + (ch.toNat - 0x30)) 0, d)

def version (start : Mark) (c : Cursor) : Except Fault (Directive × Cursor) := do
  let c := c.skipWhile isBlank
  c.ensure 1
  let (major, c) ← versionNumber start c
  if c.next ≠ '.' then
    .error (.lexical start c.mark "did not find expected digit or '.' character")
  else
    let (minor, c) ← versionNumber start (c.skip 1)
    return (.version major minor, c)

def handleMeaning (start : Mark) (c : Cursor) : Except Fault (Directive × Cursor) := do
  let c := c.skipWhile isBlank
  let (handle, c) ← tagHandle true start c
  c.ensure 1
  if !isBlank c.next then .error (.lexical start c.mark "did not find expected whitespace")
  else
    let (expansion, c) ← uri start [] (c.skipWhile isBlank)
    c.ensure 1
    if !isGap c.next then
      .error (.lexical start c.mark "did not find expected whitespace or line break")
    else return (.handle handle expansion, c)

def directive (c : Cursor) : Except Fault (Directive × Cursor) := do
  let start := c.mark
  let c := c.skip 1
  let name := c.rest.takeWhile isWordChar
  let c := c.skip name.length
  c.ensure 1
  if name = [] then .error (.lexical start c.mark "could not find expected directive name")
  else if !isGap c.next then
    .error (.lexical start c.mark "found unexpected non-alphabetical character")
  else
    let (d, c) ←
      if name = ['Y', 'A', 'M', 'L'] then version start c
      else if name = ['T', 'A', 'G'] then handleMeaning start c
      else .error (.lexical start c.mark "found unknown directive name")
    let c := c.skipWhile isBlank
    c.ensure 1
    let c ← if c.next = '#' then c.toLineEnd else pure c
    if !isLineEnd c.next then
      .error (.lexical start c.mark "did not find expected comment or line break")
    else
      c.ensure 2
      return (d, c.skipBreak)

end RouteScript.Yaml
