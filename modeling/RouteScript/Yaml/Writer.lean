import RouteScript.Text.Base64
import RouteScript.Yaml.Character
import RouteScript.Yaml.Scalar

/-!
# Writing scalars

A string is written plain where that preserves it, otherwise in single quotation marks, and in double
quotation marks where an escape is needed. A string of several lines is written literally, line by line,
unless it needs escapes. A text that is not UTF-8 is written in base 64.
-/

namespace RouteScript.Yaml

open Text

def isPrintable (c : Char) : Bool :=
  let n := c.toNat
  (0x20 ≤ n && n ≤ 0x7E) || (0xA0 ≤ n && n ≤ 0xD7FF) ||
    (0xE000 ≤ n && n ≤ 0xFFFD && n != 0xFEFF)

def beforeBlank : List Char → Bool
  | [] => true
  | c :: _ => isBlank c

def indicators : List Nat := (utf8 "#,[]\x7b\x7d&*!|>'\"%@`").map UInt8.toNat

def badStart (c : Char) (rest : List Char) : Bool :=
  indicators.contains c.toNat ||
    ((c.toNat == question.toNat || c.toNat == colon.toNat || c.toNat == dash.toNat) &&
      beforeBlank rest)

/-- A later character stands in the way: a colon before a blank, or a hash sign behind one. -/
def badInside : (previous : Char) → List Char → Bool
  | _, [] => false
  | p, c :: cs =>
    (c.toNat == colon.toNat && beforeBlank cs) ||
      (c.toNat == hashSign.toNat && (isBlank p || isBreak p || p.toNat == 0)) ||
      badInside c cs

def spaceAtBreak : List Char → Bool
  | a :: b :: cs =>
    (a.toNat == 0x20 && isBreak b) || (isBreak a && b.toNat == 0x20) || spaceAtBreak (b :: cs)
  | _ => false

/-- The string reads as itself without quotation marks. -/
def plainAllowed (cs : List Char) : Bool :=
  match cs with
  | [] => true
  | c :: rest =>
    !(c.toNat == 0x20 || cs.getLast?.any (·.toNat == 0x20) || cs.any isBreak ||
      (utf8 "---").isPrefixOf (cs.flatMap String.utf8EncodeChar) ||
      (utf8 "...").isPrefixOf (cs.flatMap String.utf8EncodeChar) ||
      badStart c rest || badInside c rest)

/-- The string has a character that only double quotation marks can hold. -/
def needsEscapes (cs : List Char) : Bool := cs.any (!isPrintable ·) || spaceAtBreak cs

def escapeLetter? : Nat → Option UInt8
  | 0x00 => some 0x30
  | 0x07 => some 0x61
  | 0x08 => some 0x62
  | 0x09 => some 0x74
  | 0x0A => some 0x6E
  | 0x0B => some 0x76
  | 0x0C => some 0x66
  | 0x0D => some 0x72
  | 0x1B => some 0x65
  | 0x22 => some quote
  | 0x5C => some backslash
  | 0x85 => some 0x4E
  | 0xA0 => some underscore
  | 0x2028 => some 0x4C
  | 0x2029 => some 0x50
  | _ => none

def escaped (c : Char) : Text :=
  match escapeLetter? c.toNat with
  | some l => [backslash, l]
  | none =>
    if c.toNat ≤ 0xFF then utf8 "\\x" ++ hexUpper 2 c.toNat
    else if c.toNat ≤ 0xFFFF then utf8 "\\u" ++ hexUpper 4 c.toNat
    else utf8 "\\U" ++ hexUpper 8 c.toNat

/-- The string in double quotation marks. When it starts with a byte order mark, everything in it is
escaped. -/
def doubleQuoted (cs : List Char) : Text :=
  let marked := cs.head?.any (·.toNat == 0xFEFF)
  let body := cs.flatMap fun c =>
    if marked || !isPrintable c || isBreak c || c.toNat == 0x22 || c.toNat == 0x5C then escaped c
    else String.utf8EncodeChar c
  quote :: body ++ [quote]

/-- The characters of a string in single quotation marks; a line that starts inside it is indented. -/
def singleQuotedBody (indent : Nat) : (atBreak : Bool) → List Char → Text
  | _, [] => []
  | atBreak, c :: cs =>
    if isBreak c then String.utf8EncodeChar c ++ singleQuotedBody indent true cs
    else
      (if atBreak then List.replicate indent space else [])
        ++ (if c.toNat = apostrophe.toNat then [apostrophe, apostrophe] else String.utf8EncodeChar c)
        ++ singleQuotedBody indent false cs

def singleQuoted (indent : Nat) (cs : List Char) : Text :=
  apostrophe :: singleQuotedBody indent false cs ++ [apostrophe]

def rows : (fuel : Nat) → Text → List Text
  | 0, _ => []
  | fuel + 1, t => if t = [] then [] else t.take 70 :: rows fuel (t.drop 70)

/-- Bytes that are not UTF-8: in base 64, on indented lines of their own when they are many. -/
def binary (indent : Nat) (t : Text) : Text :=
  let code := Base64.encode t
  if code.length < 70 then utf8 "!!binary " ++ code
  else utf8 "!!binary |" ++
    (rows code.length code).flatMap fun r => [lf] ++ List.replicate indent space ++ r

def spaceBeforeBreak : List Char → Bool
  | a :: b :: cs => (a.toNat == 0x20 && isBreak b) || spaceBeforeBreak (b :: cs)
  | _ => false

def literalAllowed (cs : List Char) : Bool :=
  cs.all (fun c => isPrintable c || c.toNat == 0x0A || c.toNat == 0x09) &&
    !cs.getLast?.any (·.toNat == 0x20) && !spaceBeforeBreak cs

/-- What is said in front of the lines: the indentation, if the first line does not show it, and what
becomes of the line breaks at the end. -/
def literalHints (cs : List Char) : Text :=
  (if cs.head?.any fun c => c.toNat == 0x20 || isBreak c then utf8 "2" else [])
    ++ match cs.reverse with
      | c :: d :: _ => if !isBreak c then [dash] else if isBreak d then utf8 "+" else []
      | [c] => if isBreak c then utf8 "+" else [dash]
      | [] => [dash]

/-- The lines of a literal string. A line of its own is started where the writing is not at the start of
one already, and every line with something on it is indented. -/
def literalLines (indent : Nat) : (fresh indented : Bool) → List Char → Text
  | fresh, _, [] => if fresh then [] else [lf]
  | fresh, indented, c :: cs =>
    if isBreak c then String.utf8EncodeChar c ++ literalLines indent true false cs
    else
      (if indented then [] else (if fresh then [] else [lf]) ++ List.replicate indent space)
        ++ String.utf8EncodeChar c ++ literalLines indent false true cs

def literal (indent : Nat) (cs : List Char) : Text :=
  utf8 "|" ++ literalHints cs ++ literalLines indent false false cs

def scalarLine (column : Nat) (t : Text) : Text :=
  let indent := column + 2
  if !t.isValid then binary indent t ++ [lf]
  else
    let cs := (symbols t).map Symbol.char
    if lf ∈ t then
      if literalAllowed cs then literal indent cs else doubleQuoted cs ++ [lf]
    else if isAmbiguous t || needsEscapes cs then doubleQuoted cs ++ [lf]
    else if plainAllowed cs then t ++ [lf]
    else singleQuoted indent cs ++ [lf]

inductive FieldValue where
  | string (t : Text)
  | number (n : Int)
  /-- Lines of a nested block, already indented. -/
  | block (ls : Text)

def field (column : Nat) (key : String) : FieldValue → Text
  | .string t => utf8 key ++ utf8 ": " ++ scalarLine column t
  | .number n => utf8 key ++ utf8 ": " ++ decimal n ++ [lf]
  | .block ls => utf8 key ++ utf8 ":" ++ [lf] ++ ls

/-- The fields of a mapping at a column; the first one continues a line that is already there. -/
def mapping (column : Nat) (fields : List (String × FieldValue)) : Text :=
  join (List.replicate column space) (fields.map fun f => field column f.1 f.2)

def sequence (column : Nat) (items : List Text) : Text :=
  items.flatMap fun i => List.replicate column space ++ [dash, space] ++ i

end RouteScript.Yaml
