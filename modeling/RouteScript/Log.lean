import RouteScript.Parse

/-!
# Log records

A record is one line of `key=value` pairs, the level and the message first. A value is quoted when it
is empty or has a symbol that would blur the borders of the pairs.
-/

namespace RouteScript

open Text

inductive LogLevel where
  | debug
  | info
  | warn
  | error
  deriving DecidableEq, Repr

def LogLevel.name : LogLevel → Text
  | .debug => utf8 "DEBUG"
  | .info => utf8 "INFO"
  | .warn => utf8 "WARN"
  | .error => utf8 "ERROR"

structure LogRecord where
  level : LogLevel
  message : Text
  attributes : List (Text × Text)
  deriving DecidableEq, Repr

namespace LogRecord

/-- The symbol cannot stand in an unquoted value: a space, an equals sign, a quotation mark, a control
character other than delete, the replacement character or a stray byte, or anything unprintable. -/
def needsQuotes : Symbol → Bool
  | .stray _ => true
  | .scalar c =>
    if c.toNat < 0x80 then
      c.toNat ≤ 0x20 || c.toNat == equals.toNat || c.toNat == quote.toNat
    else c.toNat == 0xFFFD || !isPrintable c

def value (t : Text) : Text :=
  if t = [] || (symbols t).any needsQuotes then quoted t else t

def render (r : LogRecord) : Text :=
  let pairs :=
    (utf8 "level", r.level.name) :: (utf8 "msg", r.message) :: r.attributes
  join [space] (pairs.map fun (k, v) => value k ++ [equals] ++ value v) ++ [lf]

end LogRecord

def listValue (ts : List Text) : Text := [openBracket] ++ join [space] ts ++ [closeBracket]

def ParseEvent.record : ParseEvent → LogRecord
  | .classified n kind statement => {
      level := .debug
      message := utf8 "classified line"
      attributes :=
        [(utf8 "line", decimal n), (utf8 "kind", kind.name), (utf8 "statement", statement)] }
  | .finished assignments lines => {
      level := .debug
      message := utf8 "parsed script"
      attributes := [(utf8 "assignments", decimal assignments), (utf8 "lines", decimal lines)] }

def renderLog (debug : Bool) (rs : List LogRecord) : Text :=
  (rs.filter fun r => debug || r.level ≠ .debug).flatMap LogRecord.render

end RouteScript
