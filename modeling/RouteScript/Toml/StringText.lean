import RouteScript.Toml.Cursor

/-!
# Strings

Strings stand between single or double quotation marks, or between three of them. Double marks allow
escapes, and three of them also a backslash that joins two lines. A string is first read as it is
written, and escapes are replaced behind its end.
-/

namespace RouteScript.Toml

open Text

/-- Reads the digits of a numeric escape behind what was read of the string, which is kept newest
first. -/
def escapeDigits (complaint : String) : Nat → List Char → Cursor →
    Except Complaint (List Char × Cursor)
  | 0, read, c => .ok (read, c)
  | n + 1, read, c => do
    let (r, d) ← c.next
    let read := r.toList ++ read
    if r.any isHexDigit then escapeDigits complaint n read d
    else d.refuse r (utf8 complaint ++ quoted (encode read.reverse) ++ utf8 " instead")

def escape (read : List Char) (c : Cursor) : Except Complaint (List Char × Cursor) := do
  let (r, d) ← c.next
  match r with
  | none => d.failAbove (utf8 "invalid escape in string '\\" ++ [0] ++ utf8 "'")
  | some ch =>
    let read' := ch :: read
    if ['b', 't', 'n', 'f', 'r', '"', ' ', '\t', '\\'].contains ch then return (read', d)
    else if ch = 'u' then
      escapeDigits "expected four hexadecimal digits after '\\u', but got " 4 read' d
    else if ch = 'U' then
      escapeDigits "expected eight hexadecimal digits after '\\U', but got " 8 read' d
    else d.fail (utf8 "invalid escape in string '\\" ++ encode [ch] ++ utf8 "'")

def shortEscape? (c : Char) : Option UInt8 :=
  match c.toNat with
  | 0x62 => some 0x08
  | 0x74 => some 0x09
  | 0x6E => some 0x0A
  | 0x66 => some 0x0C
  | 0x72 => some 0x0D
  | 0x22 => some 0x22
  | 0x5C => some 0x5C
  | _ => none

def hexValue (c : Char) : Nat :=
  if c.isDigit then c.toNat - 0x30 else if 'a' ≤ c then c.toNat - 0x57 else c.toNat - 0x37

def numericEscape (line : Nat) (digits : List Char) : Except Complaint Text :=
  let n := digits.foldl (fun n c => n * 16 + hexValue c) 0
  if n.isValidChar then .ok (String.utf8EncodeChar (Char.ofNat n))
  else .error ⟨line, utf8 "Escaped character '\\u" ++ encode digits ++ utf8 "' is not valid UTF-8."⟩

/-- A string with its escapes replaced; `skip` characters belong to an escape that is. -/
def replaceEscapes (line : Nat) : (skip : Nat) → List Char → Except Complaint Text
  | _, [] => .ok []
  | skip + 1, _ :: cs => replaceEscapes line skip cs
  | 0, c :: cs =>
    if c ≠ '\\' then do return String.utf8EncodeChar c ++ (← replaceEscapes line 0 cs)
    else match cs with
      | [] => .ok []
      | e :: ds =>
        if isBlank e then .error ⟨line, utf8 "invalid escape: '\\" ++ encode [e] ++ utf8 "'"⟩
        else if e = 'u' then do
          return (← numericEscape line (ds.take 4)) ++ (← replaceEscapes line 5 (e :: ds))
        else if e = 'U' then do
          return (← numericEscape line (ds.take 8)) ++ (← replaceEscapes line 9 (e :: ds))
        else do return (shortEscape? e).toList ++ (← replaceEscapes line 1 (e :: ds))

def dropFirstBreak : List Char → List Char
  | '\n' :: cs => cs
  | '\r' :: '\n' :: cs => cs
  | cs => cs

/-- White space that a backslash at the end of a line takes away. -/
def isSpace (c : Char) : Bool := isBlank c || isBreak c

/-- A string in which each backslash with only white space behind it on its line is left out, together
with all white space up to the next text. `joining` says that such white space is being left out. -/
def joinLines : (joining : Bool) → List Char → List Char
  | _, [] => []
  | joining, c :: cs =>
    if joining ∧ isSpace c then joinLines true cs
    else if c ≠ '\\' then c :: joinLines false cs
    else match cs with
      | '\\' :: ds => '\\' :: '\\' :: joinLines false ds
      | cs =>
        if (cs.takeWhile isSpace).contains '\n' then joinLines true cs
        else c :: joinLines false cs

def basicRest : (fuel : Nat) → (read : List Char) → Cursor → Except Complaint (List Char × Cursor)
  | 0, read, c => .ok (read.reverse, c)
  | fuel + 1, read, c => do
    let (r, d) ← c.next
    match r with
    | none => d.refuse none (utf8 "unexpected EOF; expected '\"'")
    | some ch =>
      if isBreak ch then d.failAbove (utf8 "strings cannot contain newlines")
      else if ch = '\\' then do
        let (read, d) ← escape (ch :: read) d
        basicRest fuel read d
      else if ch = '"' then return (read.reverse, d)
      else basicRest fuel (ch :: read) d

def basicString (c : Cursor) : Except Complaint (Text × Cursor) := do
  let (cs, c) ← basicRest (c.rest.length + 1) [] c
  return (← replaceEscapes c.line 0 cs, c)

def literalRest : (fuel : Nat) → (read : List Char) → Cursor → Except Complaint (List Char × Cursor)
  | 0, read, c => .ok (read.reverse, c)
  | fuel + 1, read, c => do
    let (r, d) ← c.next
    match r with
    | none => d.refuse none (utf8 "unexpected EOF; expected \"'\"")
    | some ch =>
      if isBreak ch then d.failAbove (utf8 "strings cannot contain newlines")
      else if ch = '\'' then return (read.reverse, d)
      else literalRest fuel (ch :: read) d

def literalString (c : Cursor) : Except Complaint (Text × Cursor) := do
  let (cs, c) ← literalRest (c.rest.length + 1) [] c
  return (encode cs, c)

def twoMore? (mark : Char) (c : Cursor) : Except Complaint (Option Cursor) := do
  match ← c.accept? mark with
  | some d => d.accept? mark
  | none => return none

/-- Six quotation marks follow each other; of those in front of the last, `read` ends with the first
two, newest first. An escaped mark does not count. -/
def tooMany (mark : Char) (read : List Char) : Bool :=
  read.take 2 == [mark, mark] && !(mark == '"' && read[2]? == some '\\')

/-- The rest of a string between three quotation marks each. Up to two marks may stand in front of the
closing ones. -/
def longRest (mark : Char) : (fuel : Nat) → (read : List Char) → Cursor →
    Except Complaint (List Char × Cursor)
  | 0, read, c => .ok (read.reverse, c)
  | fuel + 1, read, c => do
    let (r, d) ← c.next
    match r with
    | none =>
      let marks := encode [mark, mark, mark]
      d.refuse none (utf8 "unexpected EOF; expected "
        ++ (if mark = '"' then utf8 "'" ++ marks ++ utf8 "'" else utf8 "\"" ++ marks ++ utf8 "\""))
    | some ch =>
      if ch = mark then
        match ← twoMore? mark d with
        | none => longRest mark fuel (ch :: read) d
        | some e =>
          if (← e.peek) = some mark then
            if tooMany mark read then
              let marks := encode (List.replicate 6 mark)
              e.fail (utf8 "unexpected " ++ (if mark = '"' then utf8 "'" ++ marks ++ utf8 "'"
                else utf8 "\"" ++ marks ++ utf8 "\""))
            else longRest mark fuel (ch :: read) d
          else return (read.reverse, e)
      else if ch = '\\' ∧ mark = '"' then do
        let (b, e) ← d.next
        match b with
        | some b =>
          if isBreak b then longRest mark fuel (b :: ch :: read) e
          else do
            let (read, d) ← escape (ch :: read) d
            longRest mark fuel read d
        | none => do
          let (read, d) ← escape (ch :: read) d
          longRest mark fuel read d
      else longRest mark fuel (ch :: read) d

def longBasicString (c : Cursor) : Except Complaint (Text × Cursor) := do
  let (cs, c) ← longRest '"' (c.rest.length + 1) [] c
  return (← replaceEscapes c.line 0 (joinLines false (dropFirstBreak cs)), c)

def longLiteralString (c : Cursor) : Except Complaint (Text × Cursor) := do
  let (cs, c) ← longRest '\'' (c.rest.length + 1) [] c
  return (encode (dropFirstBreak cs), c)

def stringValue (mark : Char) (c : Cursor) : Except Complaint (Text × Cursor) := do
  match ← twoMore? mark c with
  | some d => if mark = '"' then longBasicString d else longLiteralString d
  | none => if mark = '"' then basicString c else literalString c

end RouteScript.Toml
