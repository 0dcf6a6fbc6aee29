/-!
# Texts as byte lists

A text is a list of bytes and nothing is assumed about its encoding: script files may hold bytes
that belong to no character. This module has the operations that look at bytes only: cutting at a
byte, searching for a pattern, splitting, and writing numbers.
-/

namespace RouteScript

/-- A text: any list of bytes. -/
abbrev Text := List UInt8

namespace Text

def utf8 (s : String) : Text := s.toUTF8.data.toList

@[match_pattern] abbrev tab : UInt8 := 0x09
@[match_pattern] abbrev lf : UInt8 := 0x0A
@[match_pattern] abbrev cr : UInt8 := 0x0D
@[match_pattern] abbrev space : UInt8 := 0x20
@[match_pattern] abbrev quote : UInt8 := 0x22
@[match_pattern] abbrev hashSign : UInt8 := 0x23
@[match_pattern] abbrev apostrophe : UInt8 := 0x27
@[match_pattern] abbrev comma : UInt8 := 0x2C
@[match_pattern] abbrev dash : UInt8 := 0x2D
@[match_pattern] abbrev dot : UInt8 := 0x2E
@[match_pattern] abbrev slash : UInt8 := 0x2F
@[match_pattern] abbrev colon : UInt8 := 0x3A
@[match_pattern] abbrev equals : UInt8 := 0x3D
@[match_pattern] abbrev question : UInt8 := 0x3F
@[match_pattern] abbrev openBracket : UInt8 := 0x5B
@[match_pattern] abbrev backslash : UInt8 := 0x5C
@[match_pattern] abbrev closeBracket : UInt8 := 0x5D
@[match_pattern] abbrev underscore : UInt8 := 0x5F
@[match_pattern] abbrev openBrace : UInt8 := 0x7B
@[match_pattern] abbrev closeBrace : UInt8 := 0x7D

def cut? (b : UInt8) : Text → Option (Text × Text)
  | [] => none
  | c :: t => if c = b then some ([], t) else (cut? b t).map fun p => (c :: p.1, p.2)

theorem cut?_eq_none_iff {b : UInt8} {t : Text} : cut? b t = none ↔ b ∉ t := by
  induction t with
  | nil => simp [cut?]
  | cons c t ih =>
    by_cases h : c = b
    · simp [cut?, h]
    · simp [cut?, h, ih, Ne.symm h]

/-- A cut puts the byte back between its two parts, and the first part is free of it. -/
theorem cut?_some_spec {b : UInt8} {t l r : Text} (h : cut? b t = some (l, r)) :
    t = l ++ b :: r ∧ b ∉ l := by
  induction t generalizing l with
  | nil => simp [cut?] at h
  | cons c t ih =>
    by_cases hc : c = b
    · simp only [cut?, hc, ↓reduceIte, Option.some.injEq, Prod.mk.injEq] at h
      simp [← h.1, ← h.2, hc]
    · simp only [cut?, hc, ↓reduceIte, Option.map_eq_some_iff, Prod.mk.injEq] at h
      obtain ⟨p, hp, rfl, rfl⟩ := h
      have := ih hp
      exact ⟨by simp [this.1], by simp [Ne.symm hc, this.2]⟩

def find? (pat : Text) : Text → Option Nat
  | [] => if pat = [] then some 0 else none
  | c :: t => if pat.isPrefixOf (c :: t) then some 0 else (find? pat t).map (· + 1)

def holds (t pat : Text) : Bool := (find? pat t).isSome

def holdsAny (t bytes : Text) : Bool := t.any bytes.contains

/-- The parts of a text between the occurrences of `b`; there is always at least one. -/
def splitAt (b : UInt8) : Text → List Text
  | [] => [[]]
  | c :: t =>
    if c = b then [] :: splitAt b t
    else match splitAt b t with
      | [] => [[c]]
      | p :: ps => (c :: p) :: ps

def join (sep : Text) : List Text → Text
  | [] => []
  | [t] => t
  | t :: ts => t ++ sep ++ join sep ts

def dropEnding (t ending : Text) : Text :=
  if ending.isSuffixOf t then t.take (t.length - ending.length) else t

def dropBeginning (t beginning : Text) : Text :=
  if beginning.isPrefixOf t then t.drop beginning.length else t

def digit (n : Nat) : UInt8 := UInt8.ofNat (0x30 + n)

def natural (n : Nat) : Text :=
  if n < 10 then [digit n] else natural (n / 10) ++ [digit (n % 10)]

def decimal : Int → Text
  | .ofNat n => natural n
  | .negSucc n => dash :: natural (n + 1)

/-- The character of a hexadecimal digit, with letters from the given base character. -/
def hexDigit (letterA : UInt8) (n : Nat) : UInt8 :=
  if n < 10 then digit n else letterA + UInt8.ofNat (n - 10)

/-- The last `width` hexadecimal digits of a number. -/
def hex (letterA : UInt8) : (width n : Nat) → Text
  | 0, _ => []
  | w + 1, n => hex letterA w (n / 16) ++ [hexDigit letterA (n % 16)]

def hexLower : (width n : Nat) → Text := hex 0x61

def hexUpper : (width n : Nat) → Text := hex 0x41

end Text
end RouteScript
