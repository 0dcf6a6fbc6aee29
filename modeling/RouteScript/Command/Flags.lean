import RouteScript.Text.Quoted
import RouteScript.Text.Record

/-!
# Flags

Flags are written `--name value`, `--name=value`, `-n value`, `-nvalue` or `-n=value`, before or after
the other arguments; switches take a value only behind an equals sign, and `--` ends the flags.
-/

namespace RouteScript

open Text

inductive Flag where
  | config
  | debug
  | help
  | operator
  | output
  | tabIndent
  | write
  deriving DecidableEq, Repr

namespace Flag

def name : Flag → Text
  | .config => utf8 "config"
  | .debug => utf8 "debug"
  | .help => utf8 "help"
  | .operator => utf8 "operator"
  | .output => utf8 "output"
  | .tabIndent => utf8 "tab-indent"
  | .write => utf8 "write"

def letter? : Flag → Option UInt8
  | .config => some 0x63
  | .help => some 0x68
  | .output => some 0x6F
  | .write => some 0x77
  | _ => none

def isSwitch : Flag → Bool
  | .debug | .help | .tabIndent | .write => true
  | _ => false

def shown (f : Flag) : Text :=
  match f.letter? with
  | some l => [dash, l] ++ utf8 ", --" ++ f.name
  | none => utf8 "--" ++ f.name

def shared : List Flag := [.config, .debug, .operator, .tabIndent]

end Flag

inductive FlagError where
  | badForm (argument : Text)
  | unknown (name : Text)
  | unknownLetter (letter : UInt8) (letters : Text)
  | missingValue (name : Text)
  | missingLetterValue (letter : UInt8) (letters : Text)
  | badValue (value : Text) (flag : Flag) (cause : Text)
  deriving DecidableEq, Repr

/-- The letter shown for a byte that is no flag. A byte outside ASCII shows as the first byte of its
encoding. -/
def shownLetter (b : UInt8) : Char :=
  Char.ofNat ((String.utf8EncodeChar (Char.ofNat b.toNat)).headD b).toNat

def FlagError.message : FlagError → Text
  | .badForm a => utf8 "bad flag syntax: " ++ a
  | .unknown n => utf8 "unknown flag: --" ++ n
  | .unknownLetter l ls =>
    utf8 "unknown shorthand flag: " ++ quotedSingle (shownLetter l) ++ utf8 " in -" ++ ls
  | .missingValue n => utf8 "flag needs an argument: --" ++ n
  | .missingLetterValue l ls =>
    utf8 "flag needs an argument: " ++ quotedSingle (shownLetter l) ++ utf8 " in -" ++ ls
  | .badValue v f cause =>
    utf8 "invalid argument " ++ quoted v ++ utf8 " for " ++ quoted f.shown ++ utf8 " flag: " ++ cause

structure FlagValues where
  config : Text
  debug : Bool := false
  operators : List Text := []
  tabIndent : Option Bool := none
  help : Bool := false
  output : Option Text := none
  write : Bool := false
  deriving DecidableEq, Repr

namespace FlagValues

def truth? (t : Text) : Option Bool :=
  if (["1", "t", "T", "TRUE", "true", "True"].map utf8).contains t then some true
  else if (["0", "f", "F", "FALSE", "false", "False"].map utf8).contains t then some false
  else none

def truth (f : Flag) (t : Text) : Except FlagError Bool :=
  match truth? t with
  | some b => .ok b
  | none => .error (.badValue t f
      (utf8 "strconv.ParseBool: parsing " ++ quoted t ++ utf8 ": invalid syntax"))

/-- The tokens given to a flag: the fields of a record, none if it is empty. -/
def tokens (f : Flag) (t : Text) : Except FlagError (List Text) :=
  if t = [] then .ok [] else (Record.read t).mapError fun e => .badValue t f e.message

def set (v : FlagValues) (f : Flag) (t : Text) : Except FlagError FlagValues :=
  match f with
  | .config => .ok { v with config := t }
  | .output => .ok { v with output := some t }
  | .debug => do return { v with debug := ← truth f t }
  | .help => do return { v with help := ← truth f t }
  | .tabIndent => do return { v with tabIndent := some (← truth f t) }
  | .write => do return { v with write := ← truth f t }
  | .operator => do return { v with operators := v.operators ++ (← tokens f t) }

/-- Arguments of the form that test runners use for themselves are passed over. -/
def isForeign (letters : Text) : Bool := (utf8 "test.").isPrefixOf letters

/-- A flag that waits for the next argument as its value, and the error if there is none. -/
structure Waiting where
  flag : Flag
  otherwise : FlagError
  deriving DecidableEq, Repr

/-- Reads the letters behind a dash; the last one may wait for a value. -/
def readLetters (flags : List Flag) :
    FlagValues → Text → Except FlagError (FlagValues × Option Waiting)
  | v, [] => .ok (v, none)
  | v, c :: more =>
    if isForeign (c :: more) then .ok (v, none)
    else match flags.find? fun f => f.letter? == some c with
      | none => .error (.unknownLetter c (c :: more))
      | some f =>
        if more.head? = some equals ∧ 1 < more.length then do
          return (← v.set f (more.drop 1), none)
        else if f.isSwitch then do readLetters flags (← v.set f (utf8 "true")) more
        else if more ≠ [] then do return (← v.set f more, none)
        else .ok (v, some ⟨f, .missingLetterValue c [c]⟩)

def longParts (body : Text) : Text × Option Text :=
  match cut? equals body with
  | some (n, t) => (n, some t)
  | none => (body, none)

def readLong (flags : List Flag) (v : FlagValues) (body : Text) :
    Except FlagError (FlagValues × Option Waiting) :=
  if body.head? = some dash ∨ body.head? = some equals then .error (.badForm (dash :: dash :: body))
  else
    let (name, value?) := longParts body
    match flags.find? fun f => f.name == name with
    | none => .error (.unknown name)
    | some f =>
      match value? with
      | some t => do return (← v.set f t, none)
      | none =>
        if f.isSwitch then do return (← v.set f (utf8 "true"), none)
        else .ok (v, some ⟨f, .missingValue name⟩)

/-- Reads arguments while a flag may wait for its value; arguments that are no flags are left. -/
def readFrom (flags : List Flag) :
    FlagValues → Option Waiting → List Text → Except FlagError (FlagValues × List Text)
  | v, none, [] => .ok (v, [])
  | _, some w, [] => .error w.otherwise
  | v, some w, argument :: rest => do readFrom flags (← v.set w.flag argument) none rest
  | v, none, argument :: rest =>
    match argument with
    | dash :: dash :: body =>
      if body = [] then .ok (v, rest)
      else do
        let (v, waiting) ← readLong flags v body
        readFrom flags v waiting rest
    | dash :: c :: more => do
      let (v, waiting) ← readLetters flags v (c :: more)
      readFrom flags v waiting rest
    | _ => do
      let (v, others) ← readFrom flags v none rest
      return (v, argument :: others)

def read (flags : List Flag) (v : FlagValues) (arguments : List Text) :
    Except FlagError (FlagValues × List Text) :=
  readFrom flags v none arguments

end FlagValues
end RouteScript
