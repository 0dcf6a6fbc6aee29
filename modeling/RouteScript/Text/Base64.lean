import RouteScript.Text.Basic

/-!
# Base 64

Three bytes are written as four characters; the last group is filled up with `=`. Reading allows line
ends anywhere and does not look at bits that stand for nothing.
-/

namespace RouteScript.Base64

open Text

def letter (n : Nat) : UInt8 :=
  if n < 26 then UInt8.ofNat (0x41 + n)
  else if n < 52 then UInt8.ofNat (0x61 + (n - 26))
  else if n < 62 then UInt8.ofNat (0x30 + (n - 52))
  else if n = 62 then 0x2B
  else slash

def encode : Text → Text
  | a :: b :: c :: t =>
    let n := a.toNat * 65536 + b.toNat * 256 + c.toNat
    letter (n / 262144) :: letter (n / 4096 % 64) :: letter (n / 64 % 64) :: letter (n % 64) ::
      encode t
  | [a, b] =>
    let n := a.toNat * 1024 + b.toNat * 4
    [letter (n / 4096), letter (n / 64 % 64), letter (n % 64), equals]
  | [a] =>
    let n := a.toNat * 16
    [letter (n / 64), letter (n % 64), equals, equals]
  | [] => []

def value? (b : UInt8) : Option Nat :=
  if 0x41 ≤ b ∧ b ≤ 0x5A then some (b.toNat - 0x41)
  else if 0x61 ≤ b ∧ b ≤ 0x7A then some (b.toNat - 0x61 + 26)
  else if 0x30 ≤ b ∧ b ≤ 0x39 then some (b.toNat - 0x30 + 52)
  else if b = 0x2B then some 62
  else if b = slash then some 63
  else none

/-- The bytes that groups of four characters stand for; the last group may be filled up. -/
def decodeGroups? : Text → Option Text
  | [] => some []
  | a :: b :: c :: d :: t => do
    let m ← value? a
    let n ← value? b
    let first := UInt8.ofNat (m * 4 + n / 16)
    if c = equals ∧ d = equals ∧ t = [] then return [first]
    else
      let o ← value? c
      let second := UInt8.ofNat (n % 16 * 16 + o / 4)
      if d = equals ∧ t = [] then return [first, second]
      else
        let p ← value? d
        return first :: second :: UInt8.ofNat (o % 4 * 64 + p) :: (← decodeGroups? t)
  | _ => none

/-- The bytes that a text in base 64 stands for; line ends in it do not count. -/
def decode? (t : Text) : Option Text := decodeGroups? (t.filter fun b => b != lf && b != cr)

end RouteScript.Base64
