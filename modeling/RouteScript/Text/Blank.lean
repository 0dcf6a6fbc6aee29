import RouteScript.Text.Symbol

/-!
# White space

The white-space characters of Unicode, trimming at both ends, and the runs of other characters
between them. Stray bytes are never white space.
-/

namespace RouteScript

/-- The code point has the Unicode property White_Space. -/
def isBlankCode (n : Nat) : Bool :=
  (9 ≤ n && n ≤ 13) || n == 0x20 || n == 0x85 || n == 0xA0 || n == 0x1680 ||
  (0x2000 ≤ n && n ≤ 0x200A) || n == 0x2028 || n == 0x2029 || n == 0x202F || n == 0x205F ||
  n == 0x3000

def Symbol.isBlank : Symbol → Bool
  | .scalar c => isBlankCode c.toNat
  | .stray _ => false

namespace Text

def strip {α : Type} (p : α → Bool) (xs : List α) : List α :=
  ((xs.dropWhile p).reverse.dropWhile p).reverse

def trim (t : Text) : Text := ofSymbols (strip Symbol.isBlank (symbols t))

def pushRun (run : Text) (runs : List Text) : List Text :=
  if run = [] then runs else run :: runs

/-- The run of non-blank symbols at the front, and the non-empty runs after it. -/
def runsFrom : List Symbol → Text × List Text
  | [] => ([], [])
  | s :: ss =>
    let (run, runs) := runsFrom ss
    if s.isBlank then ([], pushRun run runs) else (s.bytes ++ run, runs)

def fields (t : Text) : List Text :=
  let (run, runs) := runsFrom (symbols t)
  pushRun run runs

def hasBlank (t : Text) : Bool := (symbols t).any Symbol.isBlank

def isSingle (t : Text) : Bool := !t.isEmpty && !hasBlank t

end Text
end RouteScript
