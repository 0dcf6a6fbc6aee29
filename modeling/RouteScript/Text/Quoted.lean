import RouteScript.Text.Printable

/-!
# Quoted text

A text between quotation marks in which every symbol is visible: printable characters stand for
themselves, the quotation mark and the backslash are escaped, and everything else is written as a
short or numeric escape. Stray bytes are written as two hexadecimal digits.
-/

namespace RouteScript.Text

def controlLetter? : Nat → Option UInt8
  | 0x07 => some 0x61
  | 0x08 => some 0x62
  | 0x0C => some 0x66
  | 0x0A => some 0x6E
  | 0x0D => some 0x72
  | 0x09 => some 0x74
  | 0x0B => some 0x76
  | _ => none

def quotedChar (mark : UInt8) (c : Char) : Text :=
  if c.toNat = mark.toNat ∨ c.toNat = backslash.toNat then [backslash, UInt8.ofNat c.toNat]
  else if isPrintable c then String.utf8EncodeChar c
  else match controlLetter? c.toNat with
    | some l => [backslash, l]
    | none =>
      if c.toNat < 0x80 then utf8 "\\x" ++ hexLower 2 c.toNat
      else if c.toNat < 0x10000 then utf8 "\\u" ++ hexLower 4 c.toNat
      else utf8 "\\U" ++ hexLower 8 c.toNat

def quotedSymbol (mark : UInt8) : Symbol → Text
  | .scalar c => quotedChar mark c
  | .stray b => utf8 "\\x" ++ hexLower 2 b.toNat

def quoted (t : Text) : Text :=
  quote :: (symbols t).flatMap (quotedSymbol quote) ++ [quote]

def quotedSingle (c : Char) : Text := apostrophe :: quotedChar apostrophe c ++ [apostrophe]

def fitsBackquotes : Symbol → Bool
  | .scalar c =>
    let n := c.toNat
    (0x20 ≤ n || n == tab.toNat) && n != 0x60 && n != 0x7F && n != 0xFEFF
  | .stray _ => false

/-- The text between backquotes if that shows it, and otherwise in double quotation marks. -/
def backquoted (t : Text) : Text :=
  if (symbols t).all fitsBackquotes then utf8 "`" ++ t ++ utf8 "`" else quoted t

end RouteScript.Text
