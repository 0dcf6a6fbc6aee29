import RouteScript.Toml.Scalar

/-!
# Tables

A document is a table: names with values, which may be tables again. A path leads from a table to
another one inside of it; where it meets a list of tables it goes on with the last of them.
-/

namespace RouteScript.Toml

open Text

inductive Value where
  | scalar (s : Scalar)
  | array (vs : List Value)
  | table (members : List (Text × Value))
  /-- A list of tables that can be extended. -/
  | tables (ts : List (List (Text × Value)))

abbrev Table := List (Text × Value)

abbrev Path := List Text

def Value.typeName : Value → Text
  | .scalar (.string _) => utf8 "string"
  | .scalar .int => utf8 "int64"
  | .scalar .float => utf8 "float64"
  | .scalar (.bool _) => utf8 "bool"
  | .scalar .datetime => utf8 "time.Time"
  | .array _ => utf8 "[]any"
  | .table _ => utf8 "map[string]any"
  | .tables _ => utf8 "[]map[string]any"

def isBareByte (b : UInt8) : Bool := b < 0x80 && isBare (Char.ofNat b.toNat)

def nameByte (b : UInt8) : Text :=
  if b = quote ∨ b = backslash then [backslash, b]
  else if b = 0x08 then utf8 "\\b"
  else if b = 0x09 then utf8 "\\t"
  else if b = 0x0A then utf8 "\\n"
  else if b = 0x0C then utf8 "\\f"
  else if b = 0x0D then utf8 "\\r"
  else if b < 0x20 ∨ b = 0x7F then utf8 "\\u" ++ hexLower 4 b.toNat
  else [b]

/-- A name as it is shown: in quotation marks if it needs them. -/
def nameText (n : Text) : Text :=
  if n ≠ [] ∧ n.all isBareByte then n else quote :: n.flatMap nameByte ++ [quote]

def pathText (p : Path) : Text := join [dot] (p.map nameText)

/-- The table that a path enters at a value. -/
def Value.inner? : Value → Option Table
  | .table t => some t
  | .tables ts => ts.getLast?
  | _ => none

def Value.mapInner (f : Table → Table) : Value → Value
  | .table t => .table (f t)
  | .tables ts =>
    match ts.getLast? with
    | some t => .tables (ts.dropLast ++ [f t])
    | none => .tables ts
  | v => v

namespace Table

/-- The table with a value for a name, in the place of an older one. -/
def put (name : Text) (v : Value) : Table → Table
  | [] => [(name, v)]
  | (n, w) :: t => if n = name then (n, v) :: t else (n, w) :: put name v t

/-- The table at the end of a path, or the part of the path, behind `above`, at whose end there is no
table. -/
def at? (above : Path) : Path → Table → Except Path Table
  | [], t => .ok t
  | n :: p, t =>
    match (t.lookup n).bind Value.inner? with
    | some u => at? (above ++ [n]) p u
    | none => .error (above ++ [n])

def change (f : Table → Table) : Path → Table → Table
  | [], t => f t
  | n :: p, t => t.map fun (m, v) => (m, if m = n then v.mapInner (change f p) else v)

/-- Puts a value at the end of a path, making tables on the way; nothing comes of it if something else
is in the way. -/
def putAt? (name : Text) (v : Value) : Path → Table → Option Table
  | [], t => some (t.put name v)
  | n :: p, t =>
    match t.lookup n with
    | none => (putAt? name v p []).map fun u => t.put n (.table u)
    | some (.table u) => (putAt? name v p u).map fun u => t.put n (.table u)
    | some _ => none

end Table
end RouteScript.Toml
