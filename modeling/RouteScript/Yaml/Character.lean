import RouteScript.Text.Symbol

/-!
# Characters of YAML

The classes of characters that reading and writing share. Where a text has ended, readers see the
character zero, which no text may contain.
-/

namespace RouteScript.Yaml

/-- What is seen behind the end of a text. -/
def endChar : Char := Char.ofNat 0

def isBreak (c : Char) : Bool :=
  let n := c.toNat
  n == 0x0A || n == 0x0D || n == 0x85 || n == 0x2028 || n == 0x2029

def isBlank (c : Char) : Bool := c.toNat == 0x20 || c.toNat == 0x09

def isLineEnd (c : Char) : Bool := isBreak c || c == endChar

def isGap (c : Char) : Bool := isBlank c || isLineEnd c

def isWordChar (c : Char) : Bool := c.isAlphanum || c == '_' || c == '-'

def hexValue? (c : Char) : Option Nat :=
  if c.isDigit then some (c.toNat - 0x30)
  else if 'a' ≤ c ∧ c ≤ 'f' then some (c.toNat - 0x57)
  else if 'A' ≤ c ∧ c ≤ 'F' then some (c.toNat - 0x37)
  else none

/-- Characters that stand for themselves in a flow collection and so end a plain scalar there. -/
def isFlowIndicator (c : Char) : Bool := [',', '?', '[', ']', '\x7b', '\x7d'].contains c

def encode (cs : List Char) : Text := cs.flatMap String.utf8EncodeChar

end RouteScript.Yaml
