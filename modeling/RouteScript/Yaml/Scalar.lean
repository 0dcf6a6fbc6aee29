import RouteScript.Text.Timestamp

/-!
# Plain scalars

What a YAML scalar means when it is written without quotation marks: null, a truth value, a number, a
timestamp, or otherwise a string.
-/

namespace RouteScript.Yaml

open Text Numeral

inductive ScalarType where
  | null
  | bool (b : Bool)
  | int
  | float
  | timestamp
  | str
  deriving DecidableEq, Repr

def ScalarType.tag : ScalarType → Text
  | .null => utf8 "!!null"
  | .bool _ => utf8 "!!bool"
  | .int => utf8 "!!int"
  | .float => utf8 "!!float"
  | .timestamp => utf8 "!!timestamp"
  | .str => utf8 "!!str"

/-- The scalars with a meaning of their own. -/
def words : List (ScalarType × List String) := [
  (.bool true, ["true", "True", "TRUE"]),
  (.bool false, ["false", "False", "FALSE"]),
  (.null, ["", "~", "null", "Null", "NULL"]),
  (.float, [".nan", ".NaN", ".NAN", ".inf", ".Inf", ".INF", "+.inf", "+.Inf", "+.INF",
    "-.inf", "-.Inf", "-.INF"])]

def wordType? (t : Text) : Option ScalarType :=
  (words.find? fun w => w.2.any fun s => utf8 s == t).map Prod.fst

/-- A number with underscores left out; besides the announced bases, `0b` and `0o` may be followed by
a sign. -/
def numberType (plain : Text) : ScalarType :=
  let behind? (start : String) : Option Text :=
    if (utf8 start).isPrefixOf plain then some (plain.drop start.length) else none
  if isInteger plain then .int
  else if isFloat plain then .float
  else if (behind? "0b").any (isIntegerIn 2) || (behind? "0o").any (isIntegerIn 8) then .int
  else .str

/-- The type of a scalar that is not known to be a string. Where some other type is known, dates are
not looked for. -/
def typeOf (dates : Bool) (t : Text) : ScalarType :=
  match wordType? t with
  | some w => w
  | none =>
    match t with
    | [] => .null
    | b :: _ =>
      if isDigit b || b == 0x2B || b == dash then
        if dates && Timestamp.isTimestamp t then .timestamp else numberType (withoutUnderscores t)
      else if b = dot then
        if underscoresFit false t && isFloat (withoutUnderscores t) then .float else .str
      else .str

def scalarType (t : Text) : ScalarType := typeOf true t

/-- Words for truth values in the older version of the format. -/
def oldTrue : List Text := ["y", "Y", "yes", "Yes", "YES", "on", "On", "ON"].map utf8

def oldFalse : List Text := ["n", "N", "no", "No", "NO", "off", "Off", "OFF"].map utf8

/-- The old words that are still read as truth values where one is wanted. -/
def plainTrue : List Text := ["y", "Y", "yes", "on"].map utf8

def plainFalse : List Text := ["n", "N", "no", "off"].map utf8

def isBelowSixty : Text → Bool
  | [a] => isDigit a
  | [a, b] => isDigit a && a ≤ 0x35 && isDigit b
  | _ => false

/-- A number to the base sixty in the older version of the format: groups of digits with colons
between them, and perhaps a fraction. -/
def isSexagesimal (t : Text) : Bool :=
  let filled (u : Text) : Bool := u.all fun b => isDigit b || b == underscore
  let body := (unsigned t).2
  let (groups, fraction) := (cut? dot body).getD (body, [])
  match splitAt colon groups with
  | first :: second :: rest =>
    first.head?.any isDigit && filled first && (second :: rest).all isBelowSixty && filled fraction
  | _ => false

/-- A string that a plain scalar would not preserve. -/
def isAmbiguous (t : Text) : Bool :=
  scalarType t != .str || oldTrue.contains t || oldFalse.contains t || isSexagesimal t

end RouteScript.Yaml
