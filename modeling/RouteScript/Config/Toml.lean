import RouteScript.Config.Basic
import RouteScript.Toml.Document

/-!
# Settings in TOML

Settings are taken from the table that a document is. Unknown keys are ignored. A key is also known in
other letter case, unless the exact key is there. The first value of a wrong type is a fault.
-/

namespace RouteScript.Toml

open Text

/-- A character without regard to letter case, for comparison with lower-case letters of ASCII: two
letters outside of ASCII count as a small `s` and a small `k`. -/
def foldedChar (c : Char) : Char :=
  if c.toNat = 0x17F then 's' else if c.toNat = 0x212A then 'k' else c.toLower

/-- The names are equal but for letter case. The first is written in small letters of ASCII. -/
def sameName (known : String) (n : Text) : Bool :=
  (symbols n).map (fun s => foldedChar s.char) == known.toList

def member? (t : Table) (known : String) : Option (Text × Value) :=
  (t.find? fun m => m.1 == utf8 known).or (t.find? fun m => sameName known m.1)

namespace Document

def fault (d : Document) (path : Path) (message : Text) : Fault :=
  ⟨(d.info.lookup path).map KeyInfo.line, pathText path, message⟩

def mismatch (d : Document) (path : Path) (v : Value) (wanted : String) : Fault :=
  d.fault path (utf8 "incompatible types: TOML value has type " ++ v.typeName
    ++ utf8 "; destination has type " ++ utf8 wanted)

def string (d : Document) (path : Path) : Value → Except Fault Text
  | .scalar (.string t) => .ok t
  | v => .error (d.mismatch path v "string")

def bool (d : Document) (path : Path) : Value → Except Fault Bool
  | .scalar (.bool b) => .ok b
  | v => .error (d.mismatch path v "boolean")

def strings (d : Document) (path : Path) : Value → Except Fault (List Text)
  | .array vs => vs.mapM (d.string path)
  | .tables ts => ts.mapM fun t => d.string path (.table t)
  | v => .error (d.mismatch path v "slice")

/-- What a member of the table at a path sets, or the default if there is no such member. -/
def setting {α : Type} (path : Path) (t : Table) (known : String) (default : α)
    (read : Path → Value → Except Fault α) : Except Fault α :=
  match member? t known with
  | some (n, v) => read (path ++ [n]) v
  | none => .ok default

/-- What a table sets that belongs to a type of settings. -/
def sectionOf {α : Type} (d : Document) (typeName : String) (read : Path → Table → Except Fault α)
    (path : Path) : Value → Except Fault α
  | .table t => read path t
  | v => .error (d.fault path (utf8 "type mismatch for " ++ utf8 typeName
      ++ utf8 ": expected table but found " ++ v.typeName))

def format (d : Document) (path : Path) (t : Table) : Except Fault FormatOptions := do
  let indent ← setting path t "indent" [] d.string
  let blankLines ← setting path t "blank_lines" false d.bool
  return { indent, blankLines }

def lint (d : Document) (path : Path) (t : Table) : Except Fault LintOptions := do
  let skipFallback ← setting path t "disable_fallback_check" false d.bool
  let skipDuplicates ← setting path t "disable_duplicate_check" false d.bool
  let skipUnreachable ← setting path t "disable_unreachable_check" false d.bool
  return { skipFallback, skipDuplicates, skipUnreachable }

def config (d : Document) : Except Fault Config := do
  let t := d.root
  let operators ← setting [] t "operators" [] d.strings
  let extraOperators ← setting [] t "extra_operators" [] d.strings
  let tabIndent ← setting [] t "tab_indent" false d.bool
  let output ← setting [] t "output" [] d.string
  let format ← setting [] t "format" {} (d.sectionOf "main.formatConf" d.format)
  let lint ← setting [] t "lint" {} (d.sectionOf "main.lintConf" d.lint)
  return { operators, extraOperators, tabIndent, output, format, lint }

end Document
end RouteScript.Toml
