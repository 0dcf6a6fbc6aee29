import RouteScript.Command.Name

/-!
# Help

The help of a command: what it does, how it is called, and its flags in two columns.
-/

namespace RouteScript.Command

open Text

def summary : Command → Text
  | .root => utf8 "Parse, format and lint GraphHopper Script files"
  | .parse => utf8 "Parse a script and print its assignments"
  | .fmt => utf8 "Print a script in canonical form"
  | .lint => utf8 "Report suspicious assignments"
  | .watch => utf8 "Re-parse and lint scripts in a directory on change"
  | .help => utf8 "Help about any command"
  | .completion => utf8 "Generate the autocompletion script for the specified shell"

def description : Command → Text
  | .help => utf8 ("Help provides help for any command in the application.\n" ++
      "Simply type gscript help [path to command] for full details.")
  | c => c.summary

def argumentForm : Command → Text
  | .parse | .fmt | .lint => utf8 " [file|-]"
  | .watch => utf8 " <dir>"
  | .help => utf8 " [command]"
  | _ => []

/-- What a flag of a command does; `defaultConfig` is the configuration file used without a flag. -/
def flagUsage (c : Command) (defaultConfig : Text) : Flag → Text
  | .config => utf8 "Path to TOML or YAML config file"
      ++ (if defaultConfig = [] then [] else utf8 " (default " ++ quoted defaultConfig ++ utf8 ")")
  | .debug => utf8 "Enable debug output"
  | .help => utf8 "help for " ++ c.name
  | .operator => utf8 "Additional condition operator token (repeatable)"
  | .output => utf8 "Output format: yaml or json (default \"yaml\")"
  | .tabIndent => utf8 "Treat leading tabs as continuation indent"
  | .write => utf8 "Write result to the source file"

def flagForm (f : Flag) : Text :=
  (match f.letter? with
    | some l => utf8 "  -" ++ [l] ++ utf8 ", --"
    | none => utf8 "      --")
    ++ f.name
    ++ (match f with
        | .config | .output => utf8 " string"
        | .operator => utf8 " strings"
        | _ => [])

def flagTable (c : Command) (defaultConfig : Text) (fs : List Flag) : Text :=
  let width := fs.foldl (fun w f => max w (flagForm f).length) 0
  fs.flatMap fun f =>
    flagForm f ++ List.replicate (width - (flagForm f).length + 3) space
      ++ flagUsage c defaultConfig f ++ [lf]

def commandTable : Text :=
  [Command.completion, .fmt, .help, .lint, .parse, .watch].flatMap fun c =>
    utf8 "  " ++ c.name ++ List.replicate (12 - c.name.length) space ++ c.summary ++ [lf]

def programUsage (defaultConfig : Text) (fs : List Flag) : Text :=
  utf8 "Usage:\n  " ++ program ++ utf8 " [command]\n\nAvailable Commands:\n" ++ commandTable
    ++ utf8 "\nFlags:\n" ++ flagTable .root defaultConfig fs
    ++ utf8 "\nUse \"" ++ program
    ++ utf8 " [command] --help\" for more information about a command.\n"

def commandUsage (c : Command) (defaultConfig : Text) : Text :=
  let own :=
    match c with
    | .parse => [Flag.help, .output]
    | .fmt => [Flag.help, .write]
    | _ => [Flag.help]
  utf8 "Usage:\n  " ++ program ++ [space] ++ c.name ++ c.argumentForm ++ utf8 " [flags]\n\nFlags:\n"
    ++ flagTable c defaultConfig own ++ utf8 "\nGlobal Flags:\n"
    ++ flagTable c defaultConfig Flag.shared

def helpText (c : Command) (defaultConfig : Text) : Text :=
  c.description ++ utf8 "\n\n" ++
    match c with
    | .root => programUsage defaultConfig [.config, .debug, .help, .operator, .tabIndent]
    | c => c.commandUsage defaultConfig

/-- The answer to a question for help about something that is no command. -/
def noHelpText (topics : List Text) (defaultConfig : Text) : Text :=
  utf8 "Unknown help topic " ++ [openBracket]
    ++ join [space] (topics.map backquoted)
    ++ [closeBracket, lf] ++ programUsage defaultConfig Flag.shared

end RouteScript.Command
