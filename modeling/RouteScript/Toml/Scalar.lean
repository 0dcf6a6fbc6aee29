import RouteScript.Text.Letter
import RouteScript.Text.Numeral
import RouteScript.Toml.Datetime
import RouteScript.Toml.StringText

/-!
# Scalars

Values that are not made of others: strings, integers, floats, dates and truth values. A number is
first read as far as its characters could belong to one, and then checked.
-/

namespace RouteScript.Toml

open Text Numeral

inductive Scalar where
  | string (t : Text)
  | int
  | float
  | bool (b : Bool)
  | datetime
  deriving DecidableEq, Repr

/-- A byte that may stand beside an underscore. -/
def isHexByte (b : UInt8) : Bool := (digitValue? 16 b).isSome

/-- Every underscore stands behind a digit, and the last byte is one. -/
def underscoresOkFrom : (afterDigit : Bool) → Text → Bool
  | afterDigit, [] => afterDigit
  | afterDigit, b :: t => (b != underscore || afterDigit) && underscoresOkFrom (isHexByte b) t

def underscoresOk (t : Text) : Bool :=
  (["nan", "+nan", "-nan", "inf", "-inf", "+inf"].map utf8).contains t || underscoresOkFrom false t

/-- A number starts with a zero that is neither all of it nor announces a base. -/
def hasLeadingZero : Text → Bool
  | 0x30 :: b :: _ => !(b == 0x62 || b == 0x6F || b == 0x78)
  | s :: 0x30 :: _ :: _ => s == dash || s == 0x2B
  | _ => false

def pointsOk : (afterPoint : Bool) → Text → Bool
  | afterPoint, [] => !afterPoint
  | afterPoint, b :: t => (!afterPoint || isDigit b) && pointsOk (b == dot) t

def floatParts (t : Text) : List Text :=
  (splitAt dot (t.map fun b => if lowerByte b = 0x65 then dot else b)).filter (· ≠ [])

def integer (line : Nat) (t : Text) : Except Complaint Scalar :=
  let invalid (why : String) : Except Complaint Scalar :=
    .error ⟨line, utf8 "Invalid integer " ++ quoted t ++ utf8 why⟩
  let (negative, body) := unsigned (withoutUnderscores t)
  if !underscoresOk t then invalid ": underscores must be surrounded by digits"
  else if hasLeadingZero t then invalid ": cannot have leading zeroes"
  else if (natural? body).any (isSigned64 negative) then .ok .int
  else .error ⟨line, t ++ utf8 " is out of range for int64"⟩

def float (line : Nat) (t : Text) : Except Complaint Scalar :=
  let invalid (why : String) : Except Complaint Scalar :=
    .error ⟨line, utf8 "Invalid float " ++ quoted t ++ utf8 why⟩
  let parts := floatParts t
  let body := (unsigned (withoutUnderscores t)).2
  if !parts.all underscoresOk then invalid ": underscores must be surrounded by digits"
  else if parts.head?.any hasLeadingZero then invalid ": cannot have leading zeroes"
  else if !pointsOk false t then invalid ": '.' must be followed by one or more digits"
  else if body = utf8 "inf" ∨ body = utf8 "nan" then .ok .float
  else match fraction? body with
    | none => .error ⟨line, utf8 "Invalid float value: " ++ quoted t⟩
    | some d =>
      if d.isHuge then .error ⟨line, t ++ utf8 " is out of range for float64"⟩ else .ok .float

def datetime (line : Nat) (t : Text) : Except Complaint Scalar :=
  let t := plainDatetime t
  if isDatetime t then .ok .datetime
  else .error ⟨line, utf8 "invalid datetime: " ++ quoted t⟩

def floatRest (read : List Char) (c : Cursor) : Except Complaint (Scalar × Cursor) := do
  let (cs, c) ← c.span fun ch => ch.isDigit || ['_', '.', '-', '+', 'e', 'E'].contains ch
  return (← float c.line (encode (read ++ cs)), c)

def datetimeRest (read : List Char) (c : Cursor) : Except Complaint (Scalar × Cursor) := do
  let (cs, c) ← c.span fun ch =>
    ch.isDigit || ['-', ':', 'T', 't', ' ', '.', 'Z', 'z', '+'].contains ch
  let t := ((encode (read ++ cs)).reverse.dropWhile (· = space)).reverse
  return (← datetime c.line t, c)

def decimalRest (read : List Char) (c : Cursor) : Except Complaint (Scalar × Cursor) := do
  let (cs, c) ← c.span fun ch => ch.isDigit || ch == '_'
  if (← c.peek).any ['.', 'e', 'E'].contains then floatRest (read ++ cs) c
  else return (← integer c.line (encode (read ++ cs)), c)

def numberRest (read : List Char) (c : Cursor) : Except Complaint (Scalar × Cursor) := do
  let (cs, c) ← c.span Char.isDigit
  if (← c.peek).any ['-', ':'].contains then datetimeRest (read ++ cs) c
  else decimalRest (read ++ cs) c

/-- Goes on with a number of an announced base behind the letter of that base. -/
def basedRest (letter : Char) (name : String) (isDigit : Char → Bool) (c : Cursor) :
    Except Complaint (Scalar × Cursor) := do
  let r ← c.peek
  if r.any isDigit then
    let (cs, c) ← c.span fun ch => isDigit ch || ch == '_'
    return (← integer c.line (encode ('0' :: letter :: cs)), c)
  else
    c.fail (utf8 "not " ++ utf8 name ++ utf8 " number: '"
      ++ encode ['0', letter, r.getD (Char.ofNat 0)] ++ utf8 "'")

def number (c : Cursor) : Except Complaint (Scalar × Cursor) := do
  match ← c.accept? '0' with
  | none => numberRest [] c
  | some d =>
    let (r, e) ← d.next
    if r = some 'b' then basedRest 'b' "a binary" (fun ch => ch == '0' || ch == '1') e
    else if r = some 'o' then basedRest 'o' "an octal" (fun ch => '0' ≤ ch && ch ≤ '7') e
    else if r = some 'x' then basedRest 'x' "a hexadecimal" isHexDigit e
    else if r.any Char.isDigit then numberRest ['0'] d
    else decimalRest ['0'] d

def signedWord (read : List Char) (second third : Char) (c : Cursor) :
    Except Complaint (Scalar × Cursor) := do
  match ← c.accept? second with
  | none => c.fail (utf8 "invalid float: '" ++ encode read ++ utf8 "'")
  | some d =>
    match ← d.accept? third with
    | none => d.fail (utf8 "invalid float: '" ++ encode (read ++ [second]) ++ utf8 "'")
    | some e => return (← float e.line (encode (read ++ [second, third])), e)

def signedNumber (sign : Char) (c : Cursor) : Except Complaint (Scalar × Cursor) := do
  let (r, d) ← c.next
  match r with
  | none => d.refuse none (utf8 "expected a digit but got " ++ shown none)
  | some ch =>
    if ch = 'i' then signedWord [sign, ch] 'n' 'f' d
    else if ch = 'n' then signedWord [sign, ch] 'a' 'n' d
    else if ch = '.' then d.fail (utf8 "floats must start with a digit, not '.'")
    else if ch.isDigit then
      let p ← if ch = '0' then d.peek else pure none
      if p.any ['b', 'o', 'x'].contains then
        d.fail (utf8 "cannot use sign with non-decimal numbers: '"
          ++ encode ([sign, ch] ++ p.toList) ++ utf8 "'")
      else decimalRest [sign, ch] d
    else d.fail (utf8 "expected a digit but got " ++ shown (some ch))

def word (c : Cursor) : Except Complaint (Scalar × Cursor) := do
  let (cs, d) ← c.span fun ch => letterRanges.has ch.toNat
  if encode cs = utf8 "true" then return (.bool true, d)
  else if encode cs = utf8 "false" then return (.bool false, d)
  else d.fail (utf8 "expected value but found " ++ quoted (encode cs) ++ utf8 " instead")

/-- What is found when the word `inf` or `nan` is looked for: the float, or the place at which another
word is then taken to start. -/
inductive FloatWord where
  | found (cs : List Char) (c : Cursor)
  | missing (c : Cursor)

/-- The letters `a` and `n`. What was read last, up to `last`, is not lost when they are missing. -/
def lookForNan (read : List Char) (last c : Cursor) : Except Complaint FloatWord := do
  match ← c.accept? 'a' with
  | none => return .missing last
  | some d =>
    match ← d.accept? 'n' with
    | none => return .missing c
    | some e => return .found (read ++ ['a', 'n']) e

def lookForFloatWord (first : Char) (start c : Cursor) : Except Complaint FloatWord := do
  match ← c.accept? 'n' with
  | none => lookForNan [first] start c
  | some d =>
    match ← d.accept? 'f' with
    | some e => return .found [first, 'n', 'f'] e
    | none => lookForNan [first, 'n'] c d

def floatWord (first : Char) (start c : Cursor) : Except Complaint (Scalar × Cursor) := do
  match ← lookForFloatWord first start c with
  | .found cs d => return (← float d.line (encode cs), d)
  | .missing d => word d

end RouteScript.Toml
