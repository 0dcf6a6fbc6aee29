import RouteScript.Text.Symbol

/-!
# Writing JSON

Strings, objects and arrays, one member on a line and two spaces per level. Inside strings the
characters that could end a string or be taken for markup are escaped. A stray byte is shown as the
replacement character, by the bytes of that character and not by an escape.
-/

namespace RouteScript.Json

open Text

def escapeLetter? : Nat → Option UInt8
  | 0x08 => some 0x62
  | 0x0C => some 0x66
  | 0x0A => some 0x6E
  | 0x0D => some 0x72
  | 0x09 => some 0x74
  | 0x22 => some quote
  | 0x5C => some backslash
  | _ => none

/-- The code point is written as a numeric escape: a control character, `<`, `>`, `&`, or a separator
of lines or paragraphs. -/
def isEscapedByCode (n : Nat) : Bool :=
  n < 0x20 || n == 0x3C || n == 0x3E || n == 0x26 || n == 0x2028 || n == 0x2029

def char (c : Char) : Text :=
  match escapeLetter? c.toNat with
  | some l => [backslash, l]
  | none =>
    if isEscapedByCode c.toNat then utf8 "\\u" ++ hexLower 4 c.toNat
    else String.utf8EncodeChar c

def string (t : Text) : Text :=
  quote :: (symbols t).flatMap (fun s => char s.char) ++ [quote]

def newLine (depth : Nat) : Text := lf :: List.replicate (2 * depth) space

/-- Members on lines of their own between brackets at a depth. -/
def bracketed (opening closing : UInt8) (depth : Nat) (members : List Text) : Text :=
  if members = [] then [opening, closing]
  else [opening] ++ join [comma] (members.map (newLine (depth + 1) ++ ·))
    ++ newLine depth ++ [closing]

/-- An object at a depth; the values are written for the depth below. -/
def object (depth : Nat) (fields : List (Text × Text)) : Text :=
  bracketed openBrace closeBrace depth (fields.map fun f => string f.1 ++ utf8 ": " ++ f.2)

def array (depth : Nat) (items : List Text) : Text :=
  bracketed openBracket closeBracket depth items

end RouteScript.Json
