import RouteScript.Command.Help
import RouteScript.Config.Load
import RouteScript.Document
import RouteScript.Files.Glob
import RouteScript.Log
import RouteScript.Sink
import RouteScript.Watch

/-!
# Running commands

What a command line does, as a function of its arguments, the environment, the standard input and the
files: what it prints, which error ends it, and what becomes of the files. Flags are read first, then
help is given, arguments are counted and the settings are loaded; the command comes last. Command lines
that complete others or print a shell's script for it are left out (see `RouteScript.Command.Name`).
-/

namespace RouteScript

open Text

/-- A command line and its surroundings. -/
structure Invocation where
  arguments : List Text
  defaultConfig : Text
  debugWanted : Bool
  input : Delivery
  /-- The failure of the standard output, if it takes nothing. -/
  outputFailure : Option SourceFailure
  tree : FileTree
  deriving DecidableEq, Repr

inductive CommandError where
  | flag (e : FlagError)
  | unknownCommand (typed : Text)
  | tooManyArguments (received : Nat)
  | wrongArguments (received : Nat)
  | config (e : ConfigError)
  | unreadInput (message : Text)
  | unreadFile (e : FileError)
  /-- A fault of the script that is already shown. -/
  | reported (d : Diagnostic)
  | writeNeedsFile
  | unknownOutput (form : Text)
  | outputFailed (message : Text)
  | unformatted (f : FormatFault)
  | unwrittenFile (path : Text) (cause : Text)
  | lintFailed (file : Text)
  | notDirectory (path : Text)
  | badPattern
  deriving DecidableEq, Repr

def CommandError.message : CommandError → Text
  | .flag e => e.message
  | .unknownCommand typed =>
    utf8 "unknown command " ++ quoted typed ++ utf8 " for " ++ quoted Command.program
      ++ match Command.meant typed with
        | [] => []
        | cs => utf8 "\n\nDid you mean this?\n" ++ cs.flatMap fun c => [tab] ++ c.name ++ [lf]
  | .tooManyArguments n => utf8 "accepts at most 1 arg(s), received " ++ decimal n
  | .wrongArguments n => utf8 "accepts 1 arg(s), received " ++ decimal n
  | .config e => e.message
  | .unreadInput m => utf8 "failed to read stdin: " ++ m
  | .unreadFile e => utf8 "error opening file " ++ e.path ++ utf8 ": " ++ e.message
  | .reported d => utf8 "reported: " ++ d.render
  | .writeNeedsFile => utf8 "--write requires a file argument"
  | .unknownOutput form => utf8 "unknown output format " ++ quoted form
  | .outputFailed m => m
  | .unformatted f => f.message
  | .unwrittenFile path cause => utf8 "failed to write " ++ path ++ utf8 ": " ++ cause
  | .lintFailed file => file ++ utf8 ": lint failed"
  | .notDirectory path => utf8 "not a directory: " ++ path
  | .badPattern => utf8 "syntax error in pattern"

structure Outcome where
  stdout : Text := []
  stderr : Text := []
  /-- Usage shown because a question for help could not be answered. -/
  notice : Text := []
  error : Option CommandError := none
  tree : FileTree
  deriving DecidableEq, Repr

namespace Outcome

def logged (before : Text) (o : Outcome) : Outcome := { o with stderr := before ++ o.stderr }

def isReported (o : Outcome) : Bool :=
  match o.error with
  | some (.reported _) => true
  | _ => false

/-- What a process prints on standard error: besides the rest, the error unless it is already
shown. -/
def errorOutput (o : Outcome) : Text :=
  o.stderr ++ o.notice ++
    match o.error with
    | none => []
    | some e => if o.isReported then [] else utf8 "Error: " ++ e.message ++ [lf]

def exitCode (o : Outcome) : Nat := if o.error.isSome then 1 else 0

end Outcome

/-- What all commands work with once flags and settings are read. -/
structure Work where
  invocation : Invocation
  values : FlagValues
  config : Config
  debug : Bool
  deriving DecidableEq, Repr

namespace Work

def inputName : Text := utf8 "<stdin>"

def fail (w : Work) (e : CommandError) : Outcome := { error := some e, tree := w.invocation.tree }

def log (w : Work) (rs : List LogRecord) : Text := renderLog w.debug rs

/-- The script a command works on and the name of its source: a file, or the standard input when no
file or `-` is named. -/
def source (w : Work) : List Text → Except CommandError (Text × Text)
  | [] | [[dash]] =>
    match w.invocation.input.failure with
    | some f => .error (.unreadInput f.message)
    | none => .ok (w.invocation.input.bytes, inputName)
  | path :: _ =>
    match w.invocation.tree.read path with
    | .ok content => .ok (content, path)
    | .error e => .error (.unreadFile e)

/-- Reads the script a command works on and goes on with it; a fault of the script is shown with its
source line. -/
def withScript (w : Work) (arguments : List Text) (next : Script → Text → Outcome) : Outcome :=
  match w.source arguments with
  | .error e => w.fail e
  | .ok (content, file) =>
    let (events, result) := Script.traceText (w.config.parseOptions file) content
    Outcome.logged (w.log (events.map ParseEvent.record)) <|
      match result with
      | .error d => (w.fail (.reported d)).logged (d.snippet content)
      | .ok script =>
        (next script file).logged <| w.log [{
          level := .debug
          message := utf8 "parsed"
          attributes := [(utf8 "file", file), (utf8 "assignments", decimal script.length)] }]

def print (w : Work) (t : Text) (wrap : Text → Text) : Outcome :=
  match w.invocation.outputFailure with
  | some f => w.fail (.outputFailed (wrap f.message))
  | none => { stdout := t, tree := w.invocation.tree }

def runParse (w : Work) (arguments : List Text) : Outcome :=
  w.withScript arguments fun script file =>
    let form := w.values.output.getD (if w.config.output = [] then utf8 "yaml" else w.config.output)
    let document : Document := ⟨file, script⟩
    if form.lower = utf8 "yaml" ∨ form.lower = utf8 "yml" then
      w.print document.yaml (utf8 "yaml: write error: " ++ ·)
    else if form.lower = utf8 "json" then w.print document.json id
    else w.fail (.unknownOutput form)

def runFmt (w : Work) (arguments : List Text) : Outcome :=
  if w.values.write && (arguments = [] || arguments.head? == some [dash]) then w.fail .writeNeedsFile
  else w.withScript arguments fun script file =>
    if w.values.write then
      match script.format w.config.format with
      | .error f => w.fail (.unwrittenFile file f.message)
      | .ok t =>
        match w.invocation.tree.write file t with
        | .error e => w.fail (.unwrittenFile file e.message)
        | .ok tree =>
          { stderr := w.log [{
              level := .info
              message := utf8 "formatted"
              attributes := [(utf8 "file", file), (utf8 "assignments", decimal script.length)] }]
            tree }
    else
      let pieces := script.draft.pieces w.config.format
      let room := if w.invocation.outputFailure.isSome then 0 else pieces.text.length
      match (⟨room, []⟩ : Sink).write pieces with
      | (sink, .ok ()) => { stdout := sink.accepted, tree := w.invocation.tree }
      | (sink, .error (.fault f)) => { w.fail (.unformatted f) with stdout := sink.accepted }
      | (sink, .error .sinkFailed) =>
        let message := (w.invocation.outputFailure.map (·.message)).getD []
        { w.fail (.outputFailed message) with stdout := sink.accepted }

def runLint (w : Work) (arguments : List Text) : Outcome :=
  w.withScript arguments fun script file =>
    let issues := Lint.issues w.config.lint script.draft
    let shown := issues.flatMap fun i =>
      file ++ [colon] ++ i.render ++ utf8 " [" ++ i.finding.code ++ utf8 "]" ++ [lf]
    { stdout := if w.invocation.outputFailure.isSome then [] else shown
      error := if Lint.hasError issues then some (.lintFailed file) else none
      tree := w.invocation.tree }

/-- The records of a look at one script file. -/
def checkFile (w : Work) (path : Text) : List LogRecord :=
  let file := (utf8 "file", path)
  match w.invocation.tree.read path with
  | .error e => [⟨.error, utf8 "read failed", [file, (utf8 "error", e.message)]⟩]
  | .ok content =>
    let (events, result) := Script.traceText (w.config.parseOptions path) content
    events.map ParseEvent.record ++
      match result with
      | .error d => [⟨.error, utf8 "parse failed", [file, (utf8 "line", decimal d.line),
          (utf8 "error", d.message), (utf8 "text", d.text)]⟩]
      | .ok script =>
        let issues := Lint.issues w.config.lint script.draft
        (issues.map fun i => ⟨.warn, utf8 "lint", [file, (utf8 "line", decimal i.line),
          (utf8 "level", i.finding.severity.name), (utf8 "code", i.finding.code),
          (utf8 "name", i.name), (utf8 "message", i.finding.message)]⟩) ++
        [⟨.info, utf8 "parsed", [file, (utf8 "assignments", decimal script.length),
          (utf8 "issues", decimal issues.length)]⟩]

def runWatch (w : Work) (dir : Text) : Outcome :=
  if !w.invocation.tree.isDirectory dir then w.fail (.notDirectory dir)
  else match Glob.matching? w.invocation.tree (Path.below dir (utf8 "*" ++ scriptEnding)) with
    | none => w.fail .badPattern
    | some paths =>
      { stderr := w.log (paths.flatMap w.checkFile
          ++ [⟨.info, utf8 "watching", [(utf8 "dir", dir)]⟩])
        tree := w.invocation.tree }

def runHelp (w : Work) (topics : List Text) : Outcome :=
  match Command.find topics with
  | .ok (c, _) =>
    { stdout :=
        if w.invocation.outputFailure.isSome then [] else c.helpText w.invocation.defaultConfig
      tree := w.invocation.tree }
  | .error _ =>
    { notice := Command.noHelpText topics w.invocation.defaultConfig
      tree := w.invocation.tree }

end Work

namespace Invocation

def fail (i : Invocation) (e : CommandError) : Outcome := { error := some e, tree := i.tree }

def giveHelp (i : Invocation) (c : Command) : Outcome where
  stdout := if i.outputFailure.isSome then [] else c.helpText i.defaultConfig
  tree := i.tree

def countError? (c : Command) (n : Nat) : Option CommandError :=
  match c with
  | .parse | .fmt | .lint => if 1 < n then some (.tooManyArguments n) else none
  | .watch => if n ≠ 1 then some (.wrongArguments n) else none
  | _ => none

def settings (c : Config) (v : FlagValues) : Config :=
  { c with
    extraOperators := c.extraOperators ++ v.operators
    tabIndent := v.tabIndent.getD c.tabIndent }

def work (i : Invocation) (v : FlagValues) : Except CommandError Work :=
  match Config.load i.tree v.config with
  | .error e => .error (.config e)
  | .ok c => .ok ⟨i, v, settings c v, v.debug || i.debugWanted⟩

def settingsRecord (w : Work) : LogRecord where
  level := .debug
  message := utf8 "config loaded"
  attributes := [(utf8 "path", w.values.config), (utf8 "operators", listValue w.config.operators),
    (utf8 "extra_operators", listValue w.config.extraOperators)]

def withSettings (i : Invocation) (v : FlagValues) (next : Work → Outcome) : Outcome :=
  match i.work v with
  | .error e => i.fail e
  | .ok w => (next w).logged (w.log [settingsRecord w])

inductive Plan where
  | help (c : Command)
  | run (c : Command) (values : FlagValues) (arguments : List Text)
  deriving DecidableEq, Repr

def givesHelp : Command → Bool
  | .root | .completion => true
  | _ => false

/-- What a command line asks for, once its flags are read and its arguments are counted. -/
def plan (i : Invocation) : Except CommandError Plan :=
  match Command.find i.arguments with
  | .error typed => .error (.unknownCommand typed)
  | .ok (c, arguments) =>
    match FlagValues.read c.flags { config := i.defaultConfig } arguments with
    | .error e => .error (.flag e)
    | .ok (v, rest) =>
      if v.help || givesHelp c then .ok (.help c)
      else match countError? c rest.length with
        | some e => .error e
        | none => .ok (.run c v rest)

def runCommand (w : Work) (arguments : List Text) : Command → Outcome
  | .parse => w.runParse arguments
  | .fmt => w.runFmt arguments
  | .lint => w.runLint arguments
  | .watch => w.runWatch (arguments.headD [])
  | .help => w.runHelp arguments
  | c => w.invocation.giveHelp c

def run (i : Invocation) : Outcome :=
  match i.plan with
  | .error e => i.fail e
  | .ok (.help c) => i.giveHelp c
  | .ok (.run c v arguments) => i.withSettings v fun w => runCommand w arguments c

def readsInput (i : Invocation) : Bool :=
  match i.plan with
  | .ok (.run .parse _ rest) | .ok (.run .fmt _ rest) | .ok (.run .lint _ rest) =>
    rest = [] || rest == [[dash]]
  | _ => false

def watched? (i : Invocation) : Option Text :=
  match i.plan with
  | .ok (.run .watch _ [dir]) => some dir
  | _ => none

/-- What is logged about the scripts of a watched directory that changed since an earlier state of the
files. -/
def recheck (i : Invocation) (earlier : FileTree) : Text :=
  match i.plan with
  | .ok (.run .watch v [dir]) =>
    match i.work v with
    | .error _ => []
    | .ok w =>
      let names :=
        match i.tree.resolve dir with
        | .ok (.found place .directory) => (i.tree.namesIn place).filter scriptEnding.isSuffixOf
        | _ => []
      let changed := (names.map (Path.clean dir ++ [slash] ++ ·)).filter fun p =>
        (i.tree.read p).toOption != (earlier.read p).toOption
      w.log (changed.flatMap w.checkFile)
  | _ => []

end Invocation
end RouteScript
