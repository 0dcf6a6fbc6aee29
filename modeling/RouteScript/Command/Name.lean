import RouteScript.Command.Flags
import RouteScript.Text.EditDistance
import RouteScript.Text.LowerCase

/-!
# Commands

The commands of the program, how a command line names one, and which commands are meant by a name that
is none.

Completion of command lines is left out. The hidden commands by which a shell asks for it, `__complete`
and `__completeNoDesc`, are names of no command here, and `completion` has no commands below it for the
single shells: whatever arguments it gets, it gives help.
-/

namespace RouteScript

open Text

/-- The commands of the program; `root` is the program without a command. -/
inductive Command where
  | root
  | parse
  | fmt
  | lint
  | watch
  | help
  | completion
  deriving DecidableEq, Repr

namespace Command

def program : Text := utf8 "gscript"

def name : Command → Text
  | .root => program
  | .parse => utf8 "parse"
  | .fmt => utf8 "fmt"
  | .lint => utf8 "lint"
  | .watch => utf8 "watch"
  | .help => utf8 "help"
  | .completion => utf8 "completion"

def suggested : List Command := [.parse, .fmt, .lint, .watch, .completion]

def named : List Command := suggested ++ [.help]

def ofName? (t : Text) : Option Command := named.find? fun c => c.name == t

def ownFlags : Command → List Flag
  | .parse => [.output]
  | .fmt => [.write]
  | _ => []

def flags (c : Command) : List Flag := Flag.shared ++ [.help] ++ c.ownFlags

/-- The argument is a flag whose value is the next argument, as far as the shared flags tell: unknown
flags are taken to have values. -/
def takesNext (argument : Text) : Bool :=
  match argument with
  | dash :: dash :: body =>
    !argument.contains equals && !Flag.shared.any fun f => f.name == body && f.isSwitch
  | [dash, c] =>
    c != equals && !Flag.shared.any fun f => f.letter? == some c && f.isSwitch
  | _ => false

def isFlagLike (argument : Text) : Bool := argument.head? == some dash

/-- The arguments that are neither flags nor values of flags. A flag that takes a value ends them when
it is followed by at most one argument. -/
def plainArguments : List Text → List Text
  | [] => []
  | argument :: rest =>
    if argument = [dash, dash] then []
    else if takesNext argument then
      match rest with
      | _ :: next :: rest => plainArguments (next :: rest)
      | _ => []
    else if argument ≠ [] && !isFlagLike argument then argument :: plainArguments rest
    else plainArguments rest

/-- The arguments without the first plain one equal to `name`. -/
def withoutName (name : Text) : List Text → List Text
  | [] => []
  | argument :: rest =>
    if argument = [dash, dash] then argument :: rest
    else if takesNext argument then
      match rest with
      | value :: rest => argument :: value :: withoutName name rest
      | [] => [argument]
    else if !isFlagLike argument && argument == name then rest
    else argument :: withoutName name rest

/-- The command a command line names and its own arguments, or the name that is no command. -/
def find (arguments : List Text) : Except Text (Command × List Text) :=
  match plainArguments arguments with
  | [] => .ok (.root, arguments)
  | name :: _ =>
    match ofName? name with
    | some c => .ok (c, withoutName name arguments)
    | none => .error name

/-- The commands that may be meant by a name: those within two edits of it, whatever the letter case,
and those that it starts. -/
def meant (typed : Text) : List Command :=
  suggested.filter fun c =>
    editDistance typed.lower c.name ≤ 2 || typed.lower.isPrefixOf c.name

end Command
end RouteScript
