import RouteScript.Text.Basic

/-!
# Numerals

Integers with an optional sign and base, and decimal fractions with an optional exponent, as they are
written in configuration files.
-/

namespace RouteScript.Numeral

open Text

def isDigit (b : UInt8) : Bool := 0x30 ≤ b && b ≤ 0x39

def lowerByte (b : UInt8) : UInt8 := if 0x41 ≤ b ∧ b ≤ 0x5A then b + 0x20 else b

def digitValue? (base : Nat) (b : UInt8) : Option Nat :=
  let c := lowerByte b
  let v :=
    if isDigit c then c.toNat - 0x30
    else if 0x61 ≤ c ∧ c ≤ 0x66 then c.toNat - 0x57
    else base
  if v < base then some v else none

/-- The value of a row of digits; an empty row is zero. -/
def digits? (base : Nat) (t : Text) : Option Nat :=
  t.foldl (fun n b => n.bind fun n => (digitValue? base b).map (n * base + ·)) (some 0)

def unsigned : Text → Bool × Text
  | 0x2B :: t => (false, t)
  | 0x2D :: t => (true, t)
  | t => (false, t)

/-- The base of a numeral and its digits: `0b`, `0o` and `0x` announce a base if digits follow, and
any other leading zero means octal. -/
def based : Text → Nat × Text
  | 0x30 :: b :: c :: t =>
    let l := lowerByte b
    if l = 0x62 then (2, c :: t)
    else if l = 0x6F then (8, c :: t)
    else if l = 0x78 then (16, c :: t)
    else (8, b :: c :: t)
  | 0x30 :: t => (8, t)
  | t => (10, t)

def natural? (t : Text) : Option Nat :=
  if t = [] then none else let (base, ds) := based t; digits? base ds

def isSigned64 (negative : Bool) (n : Nat) : Bool :=
  if negative then n ≤ 0x8000000000000000 else n < 0x8000000000000000

def isUnsigned64 (n : Nat) : Bool := n < 0x10000000000000000

def isInteger (t : Text) : Bool :=
  let (negative, body) := unsigned t
  (natural? body).any (isSigned64 negative) || (natural? t).any isUnsigned64

def isIntegerIn (base : Nat) (t : Text) : Bool :=
  let (negative, body) := unsigned t
  (body ≠ [] && (digits? base body).any (isSigned64 negative)) ||
    (t ≠ [] && (digits? base t).any isUnsigned64)

/-- A decimal fraction: the digits of whole and fractional part as one number, and the power of ten
that it is multiplied by. -/
structure Decimal where
  mantissa : Nat
  exponent : Int
  deriving DecidableEq, Repr

def Decimal.size (d : Decimal) : Nat := d.mantissa.log2 + 1

/-- The number lies beyond the largest double-precision number, after rounding. -/
def Decimal.isHuge (d : Decimal) : Bool :=
  let bound := Nat.pow 2 1024 - Nat.pow 2 970
  if d.mantissa = 0 then false
  else if 400 < d.exponent then true
  else if 0 ≤ d.exponent then bound ≤ d.mantissa * Nat.pow 10 d.exponent.toNat
  else if d.size < (-d.exponent).toNat then false
  else bound * Nat.pow 10 (-d.exponent).toNat ≤ d.mantissa

def exponent? : Text → Option Int
  | [] => some 0
  | e :: t =>
    if lowerByte e ≠ 0x65 then none
    else
      let (negative, body) := unsigned t
      if body = [] || !body.all isDigit then none
      else (digits? 10 body).map fun n => if negative then -(n : Int) else n

/-- A decimal fraction without sign: digits, a point and more digits, an exponent. There must be a
digit in front of the point or behind it. -/
def fraction? (t : Text) : Option Decimal :=
  let whole := t.takeWhile isDigit
  let rest := t.dropWhile isDigit
  let (frac, rest, pointed) :=
    match rest with
    | dot :: r => (r.takeWhile isDigit, r.dropWhile isDigit, true)
    | r => ([], r, false)
  if whole = [] ∧ frac = [] then none
  else if whole = [] ∧ !pointed then none
  else do
    let m ← digits? 10 (whole ++ frac)
    let e ← exponent? rest
    return ⟨m, e - frac.length⟩

def isFloat (t : Text) : Bool := (fraction? (unsigned t).2).any fun d => !d.isHuge

def underscoresFit : (after : Bool) → Text → Bool
  | _, [] => true
  | after, b :: t =>
    if b = underscore then after && (t.head?.any isDigit) && underscoresFit false t
    else underscoresFit (isDigit b) t

def withoutUnderscores (t : Text) : Text := t.filter (· ≠ underscore)

end RouteScript.Numeral
