import RouteScript.Yaml.Character

/-!
# The characters of a document

A document is UTF-8, or UTF-16 if it starts with such a byte order mark. It is decoded block by block,
and only blocks without faults are read: `Input.chars` are the characters in front of the first block
that cannot be decoded, and `Input.fault?` says what is wrong with that one.
-/

namespace RouteScript.Yaml

open Text

inductive Encoding where
  | utf8
  | utf16 (bigEndian : Bool)
  deriving DecidableEq, Repr

inductive Decoded where
  | char (c : Char) (width : Nat)
  /-- The first part of a character. -/
  | part (complaint : String)
  | bad (complaint : String)

def isAllowed (n : Nat) : Bool :=
  n == 0x09 || n == 0x0A || n == 0x0D || (0x20 ≤ n && n ≤ 0x7E) || n == 0x85 ||
    (0xA0 ≤ n && n ≤ 0xD7FF) || (0xE000 ≤ n && n ≤ 0xFFFD) || (0x10000 ≤ n && n ≤ 0x10FFFF)

def allowed (n width : Nat) : Decoded :=
  if isAllowed n then .char (Char.ofNat n) width else .bad "control characters are not allowed"

def announcedWidth (b : UInt8) : Nat :=
  if b < 0x80 then 1 else if b < 0xC0 then 0 else if b < 0xE0 then 2 else if b < 0xF0 then 3
  else if b < 0xF8 then 4 else 0

def leadingBits (width : Nat) (b : UInt8) : Nat :=
  match width with
  | 1 => b.toNat
  | 2 => b.toNat % 32
  | 3 => b.toNat % 16
  | _ => b.toNat % 8

def leastOfWidth : Nat → Nat
  | 2 => 0x80
  | 3 => 0x800
  | 4 => 0x10000
  | _ => 0

def decodeUtf8 (b : UInt8) (t : Text) : Decoded :=
  let width := announcedWidth b
  if width = 0 then .bad "invalid leading UTF-8 octet"
  else if t.length + 1 < width then .part "incomplete UTF-8 octet sequence"
  else
    let trail := t.take (width - 1)
    let n := trail.foldl (fun n c => n * 64 + c.toNat % 64) (leadingBits width b)
    if !trail.all isContinuation then .bad "invalid trailing UTF-8 octet"
    else if n < leastOfWidth width then .bad "invalid length of a UTF-8 sequence"
    else if (0xD800 ≤ n ∧ n ≤ 0xDFFF) ∨ 0x10FFFF < n then .bad "invalid Unicode character"
    else allowed n width

def unit16 (bigEndian : Bool) (a b : UInt8) : Nat :=
  if bigEndian then a.toNat * 256 + b.toNat else b.toNat * 256 + a.toNat

def decodeUtf16 (bigEndian : Bool) (a : UInt8) : Text → Decoded
  | [] => .part "incomplete UTF-16 character"
  | b :: t =>
    let n := unit16 bigEndian a b
    if 0xDC00 ≤ n ∧ n ≤ 0xDFFF then .bad "unexpected low surrogate area"
    else if 0xD800 ≤ n ∧ n ≤ 0xDBFF then
      match t with
      | c :: d :: _ =>
        let m := unit16 bigEndian c d
        if 0xDC00 ≤ m ∧ m ≤ 0xDFFF then allowed (0x10000 + (n % 1024) * 1024 + m % 1024) 4
        else .bad "expected low surrogate area"
      | _ => .part "incomplete UTF-16 surrogate pair"
    else allowed n 2

def Encoding.decode (e : Encoding) (b : UInt8) (t : Text) : Decoded :=
  match e with
  | .utf8 => decodeUtf8 b t
  | .utf16 bigEndian => decodeUtf16 bigEndian b t

/-- What decoding a block gives: its characters, and the bytes of a last character that is cut off, with
the complaint in case nothing follows. -/
structure Block where
  chars : List Char
  left : Text
  complaint : String

/-- Decodes a block of which the first `skip` bytes belong to a character read before. -/
def decodeBlock (e : Encoding) : (skip : Nat) → Text → Except String Block
  | _, [] => .ok ⟨[], [], ""⟩
  | skip + 1, _ :: t => decodeBlock e skip t
  | 0, b :: t =>
    match e.decode b t with
    | .char c width => (decodeBlock e (width - 1) t).map fun k => { k with chars := c :: k.chars }
    | .part complaint => .ok ⟨[], b :: t, complaint⟩
    | .bad complaint => .error complaint

def blockSize : Nat := 512

/-- The characters of a document, up to the first block that cannot be decoded. -/
structure Input where
  chars : List Char
  fault? : Option String
  /-- The number of characters in the first block, if the first of them is a byte order mark. -/
  marked : Nat

def laterBlocks (e : Encoding) : (fuel : Nat) → Block → Text → List Char × Option String
  | 0, _, _ => ([], none)
  | fuel + 1, before, t =>
    if t = [] then ([], if before.left = [] then none else some before.complaint)
    else
      let size := blockSize - before.left.length
      match decodeBlock e 0 (before.left ++ t.take size) with
      | .error complaint => ([], some complaint)
      | .ok k =>
        let (cs, fault?) := laterBlocks e fuel k (t.drop size)
        (k.chars ++ cs, fault?)

/-- The encoding of a document and the number of bytes in its byte order mark. -/
def encodingOf : Text → Encoding × Nat
  | 0xFF :: 0xFE :: _ => (.utf16 false, 2)
  | 0xFE :: 0xFF :: _ => (.utf16 true, 2)
  | 0xEF :: 0xBB :: 0xBF :: _ => (.utf8, 3)
  | _ => (.utf8, 0)

/-- The characters of a document. A document without bytes counts as an empty line. -/
def Input.ofBytes (t : Text) : Input :=
  let t := if t = [] then [lf] else t
  let (e, markSize) := encodingOf t
  match decodeBlock e markSize (t.take blockSize) with
  | .error complaint => ⟨[], some complaint, 0⟩
  | .ok k =>
    let (cs, fault?) := laterBlocks e (t.length + 1) k (t.drop blockSize)
    let marked := k.chars.head?.any fun c => c.toNat == 0xFEFF
    ⟨k.chars ++ cs, fault?, if marked then k.chars.length else 0⟩

end RouteScript.Yaml
