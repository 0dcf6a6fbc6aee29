import RouteScript.Parse
import RouteScript.Format
import RouteScript.Lint

/-!
# Settings

What a configuration file can set. Everything is optional; what is not set is empty or off.
-/

namespace RouteScript

structure Config where
  /-- Replaces the default operators. -/
  operators : List Text := []
  extraOperators : List Text := []
  tabIndent : Bool := false
  output : Text := []
  format : FormatOptions := {}
  lint : LintOptions := {}
  deriving DecidableEq, Repr

def Config.parseOptions (c : Config) (file : Text) : ParseOptions where
  file := file
  operators := c.operators
  extraOperators := c.extraOperators
  allowTab := c.tabIndent

end RouteScript
