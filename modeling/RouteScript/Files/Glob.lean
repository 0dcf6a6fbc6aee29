import RouteScript.Files.Tree
import RouteScript.Text.Symbol

/-!
# Glob patterns

In a pattern `*` stands for any bytes of a name, `?` for one character, a bracketed class for one
character of it, and a backslash makes the next character literal. A pattern with slashes is matched
name by name against a file tree.
-/

namespace RouteScript

open Text

inductive GlobPart where
  | literal (b : UInt8)
  | anyOne
  | anyRun
  | oneOf (negated : Bool) (ranges : List (Nat × Nat))
  deriving DecidableEq, Repr

namespace Glob

/-- A character of a class, which may be escaped, and the pattern behind it. A class cannot end the
pattern, and `-` and `]` have to be escaped. -/
def classChar? (p : Text) : Option (Nat × Text) :=
  let body? :=
    match p with
    | backslash :: t => some t
    | dash :: _ | closeBracket :: _ | [] => none
    | t => some t
  match body? with
  | none | some [] => none
  | some (b :: t) =>
    match leading? b t with
    | none => none
    | some c =>
      let rest := t.drop (c.utf8Size - 1)
      if rest = [] then none else some (c.toNat, rest)

def classRange? (p : Text) : Option ((Nat × Nat) × Text) :=
  match classChar? p with
  | none => none
  | some (lo, dash :: rest) => (classChar? rest).map fun (hi, rest) => ((lo, hi), rest)
  | some (lo, rest) => some ((lo, lo), rest)

/-- The intervals of a class up to its closing bracket; there is at least one. -/
def classRanges? : (fuel : Nat) → (first : Bool) → Text → Option (List (Nat × Nat) × Text)
  | 0, _, _ => none
  | fuel + 1, first, p =>
    match p, first with
    | closeBracket :: rest, false => some ([], rest)
    | _, _ =>
      match classRange? p with
      | none => none
      | some (r, rest) =>
        (classRanges? fuel false rest).map fun (rs, rest) => (r :: rs, rest)

/-- The elements of a pattern, if it is well formed. -/
def parts? : (fuel : Nat) → Text → Option (List GlobPart)
  | _, [] => some []
  | 0, _ => none
  | fuel + 1, b :: t =>
    if b = 0x2A then (parts? fuel t).map (.anyRun :: ·)
    else if b = question then (parts? fuel t).map (.anyOne :: ·)
    else if b = backslash then
      match t with
      | [] => none
      | c :: t => (parts? fuel t).map (.literal c :: ·)
    else if b = openBracket then
      let (negated, body) :=
        match t with
        | 0x5E :: t => (true, t)
        | t => (false, t)
      match classRanges? (body.length + 1) true body with
      | none => none
      | some (rs, rest) => (parts? fuel rest).map (.oneOf negated rs :: ·)
    else (parts? fuel t).map (.literal b :: ·)

def compile? (p : Text) : Option (List GlobPart) := parts? (p.length + 1) p

def firstSymbol? : Text → Option (Nat × Text)
  | [] => none
  | b :: t =>
    match leading? b t with
    | some c => some (c.toNat, t.drop (c.utf8Size - 1))
    | none => some (0xFFFD, t)

/-- Some ending of the text, from the text itself on, satisfies `p`. -/
def anyTail (p : Text → Bool) : Text → Bool
  | [] => p []
  | b :: t => p (b :: t) || anyTail p t

def fits : List GlobPart → Text → Bool
  | [], name => name = []
  | .literal b :: ps, name =>
    match name with
    | c :: rest => b == c && fits ps rest
    | [] => false
  | .anyOne :: ps, name =>
    match firstSymbol? name with
    | some (_, rest) => fits ps rest
    | none => false
  | .oneOf negated ranges :: ps, name =>
    match firstSymbol? name with
    | some (n, rest) => (ranges.any fun r => r.1 ≤ n && n ≤ r.2) != negated && fits ps rest
    | none => false
  | .anyRun :: ps, name => anyTail (fits ps) name

def isSpecial (p : Text) : Bool := p.holdsAny [0x2A, question, openBracket, backslash]

def inDirectory (tree : FileTree) (dir : Text) (parts : List GlobPart) : List Text :=
  match tree.resolve dir with
  | .ok (.found p .directory) =>
    ((tree.namesIn p).filter (fits parts)).map (Path.below dir)
  | _ => []

/-- The paths that match a pattern given by its names, last name first, and by whether it starts at
the root of the machine; nothing if a part of it is ill formed. -/
def paths? (tree : FileTree) (rooted : Bool) : (names : List Text) → Option (List Text)
  | [] => some [if rooted then [slash] else [dot]]
  | name :: above =>
    let whole (ns : List Text) : Text :=
      let body := join [slash] ns.reverse
      if rooted then slash :: body else if body = [] then [dot] else body
    match compile? (whole (name :: above)) with
    | none => none
    | some _ =>
      if !isSpecial (whole (name :: above)) then
        some (if tree.contains (whole (name :: above)) then [whole (name :: above)] else [])
      else match compile? name with
        | none => none
        | some parts =>
          if isSpecial (whole above) then
            (paths? tree rooted above).map (·.flatMap fun d => inDirectory tree d parts)
          else some (inDirectory tree (whole above) parts)

/-- The paths of a tree that match a pattern, which is cleaned first; nothing if it is ill formed. -/
def matching? (tree : FileTree) (pattern : Text) : Option (List Text) :=
  let p := Path.clean pattern
  paths? tree (Path.isRooted p) ((Path.names (if Path.isRooted p then p.drop 1 else p)).reverse)

end Glob
end RouteScript
