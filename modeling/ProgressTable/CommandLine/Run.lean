import ProgressTable.CommandLine.Arguments
import ProgressTable.CommandLine.Extra
import ProgressTable.CommandLine.Host
import ProgressTable.Settings.Layers

/-!
# A run of the command line

A run takes arguments, reads the files that they name, and comes to an end: an exit code and what
is printed. Only a rendering writes a file, and only after everything else has gone well. Main
definition: `run`.
-/

namespace ProgressTable.CommandLine

/-- How a run ends. -/
structure Ending where
  code : Nat
  stdout : Text
  stderr : Text
deriving Repr, DecidableEq

/-- A text and a line feed. -/
def line (t : Text) : Text := t ++ ['\n']

/-- Texts with a line feed behind each. -/
def linesOf (ts : List Text) : Text := ts.flatMap line

/-! ## Carrying out a request -/

/-- What carrying out a request comes to. -/
structure Outcome where
  code : Nat
  stdout : Text
  logs : List LogRecord
  /-- What is reported to have gone wrong. -/
  report : Option Text
deriving Repr, DecidableEq

namespace Outcome

/-- The request went well. -/
def done (logs : List LogRecord) (stdout : Text) : Outcome := ⟨0, stdout, logs, none⟩

/-- The request failed. -/
def failed (logs : List LogRecord) (report : Text) : Outcome := ⟨1, [], logs, some report⟩

end Outcome

/-- A command that failed is reported with its message. -/
def outcomeOf {α : Type} (x : Command.Run α) (finish : List LogRecord → α → Outcome) : Outcome :=
  match x.run.value with
  | .ok a => finish x.run.logs a
  | .error e => .failed x.run.logs ("Error: ".toList ++ e)

/-- The part of the program that speaks when a form was checked. -/
def logTarget : Text := "ctable".toList

/-- The outcome of a form that was checked: its errors are printed, and then the run fails. -/
def outcomeOfErrors (logs : List LogRecord) (errors : FormErrors) : Outcome :=
  if errors.isEmpty then .done logs errors.print
  else
    let count := "Form has ".toList ++ Numeral.ofNat errors.size ++ " invalid field(s)".toList
    ⟨1, errors.print, logs ++ [⟨.info, logTarget, count⟩], none⟩

section Requests

variable {m : Type → Type} [Monad m]

/-- Goes on with the text of a file, or fails. -/
def withFile (host : Host m) (path : Text) (next : Text → m Outcome) : m Outcome := do
  match ← host.read path with
  | .ok contents => next contents
  | .error e => pure (.failed []
      ("Error reading file ".toList ++ Text.inApostrophes path ++ ": ".toList ++ e.message))

/-- Goes on with the text of a file if one is named. -/
def withOptionalFile (host : Host m) (path : Option Text) (next : Option Text → m Outcome) :
    m Outcome :=
  match path with
  | some p => withFile host p fun contents => next (some contents)
  | none => next none

/-- Writes a file, or fails. -/
def writeFile (host : Host m) (logs : List LogRecord) (path contents : Text) : m Outcome := do
  match ← host.write path contents with
  | .ok () => pure (.done logs [])
  | .error e => pure (.failed logs
      ("Error writing file ".toList ++ Text.inApostrophes path ++ ": ".toList ++ e.message))

/-- Carries out a request. -/
def carryOut (host : Host m) (settings : Settings) : Request → m Outcome
  | .render elementPath fixturePath user target preview output =>
    withFile host elementPath fun element =>
    withFile host fixturePath fun fixture => do
      let x := Command.render element fixture user target (preview || settings.preview) settings
      match x.run.value, output with
      | .ok html, some path => writeFile host x.run.logs path html
      | _, _ => pure (outcomeOf x fun logs html => .done logs (line html))
  | .resolveDate elementPath time =>
    withFile host elementPath fun element =>
      pure (outcomeOf (Command.resolveDate element time settings) fun logs label =>
        .done logs (line label))
  | .validate formPath pagePath =>
    withFile host formPath fun form =>
    withOptionalFile host pagePath fun page =>
      pure (outcomeOf (Command.validate form page) outcomeOfErrors)
  | .save formPath pagePath =>
    withFile host formPath fun form =>
    withOptionalFile host pagePath fun page =>
      pure (outcomeOf (Command.save form page) fun logs saved => .done logs (line saved))
  | .form elementPath =>
    withOptionalFile host elementPath fun element =>
      pure (outcomeOf (Command.form element settings) fun logs shown =>
        .done logs (line shown))

/-! ## Settings -/

/-- The settings file that is read if it is there. -/
def defaultConfig : Text := "ctable.toml".toList

/-- The ending that the name of a settings file may lack. -/
def configEnding : Text := ".toml".toList

/-- The text of a settings file, looked for from the root. If there is no file under the name, the
one under the name with the ending is taken. -/
def settingsFile (host : Host m) (path : Text) : m (Option Text) := do
  let name := Path.join (← host.workingDirectory) path
  match ← host.read name, Path.withEnding? configEnding name with
  | .ok source, _ => pure (some source)
  | .error (.denied _), _ => pure none
  | .error _, some other => do pure (← host.read other).toOption
  | .error _, none => pure none

/-- The layers of settings: the file of the working directory, and the one that is named. -/
def settingsLayers (host : Host m) (config : Option Text) : m (List Settings.Layer) := do
  let first := Settings.Layer.file false (← settingsFile host defaultConfig)
  match config with
  | none => pure [first]
  | some path => pure [first, .file true (← settingsFile host path)]

end Requests

/-! ## Help -/

/-- The name and the number of the program. -/
def versionText : Text := "ctable 0.1.0".toList

/-- What the arguments may be. -/
def usage : Text := Text.ofLines
  [ "Usage: ctable [--config <PATH>] [-v | --verbose] <COMMAND>".toList,
    [],
    "Commands:".toList,
    "  render <ELEMENT> --fixture <PATH> --user <ID> (--course <ID> | --element <ID>)".toList,
    "         [--preview] [-o | --output <PATH>]".toList,
    "  resolve-date <ELEMENT> [<TIMESTAMP>]".toList,
    "  validate <FORM> [--page <PATH>]".toList,
    "  save <FORM> [--page <PATH>]".toList,
    "  form [<ELEMENT>]".toList,
    [],
    "Extra parameters:".toList,
    "  --extra-preview, --extra-date-format <PATTERN>, --extra-utc-offset <MINUTES>,".toList,
    "  --extra-max-ranges <NUMBER>".toList ]

/-- How a run ends in which no command is carried out. -/
def Stop.ending : Stop → Ending
  | help => ⟨0, line usage, []⟩
  | version => ⟨0, line versionText, []⟩
  | misuse => ⟨2, [], line usage⟩

/-! ## Runs -/

/-- How a run ends that fails before its command is carried out. -/
def refused (report : Text) : Ending := ⟨1, [], line report⟩

/-- What the report of unreadable settings begins with. -/
def settingsReport : Text := "Failed to load configuration".toList

/-- The warning about an extra parameter that set nothing. -/
def unusedWarning (key : Text) : Text :=
  "Warning: unknown parameter --extra-".toList ++ key ++ " ignored".toList

/-- Which log records a run prints. -/
def logFilter (verbose : Bool) (settings : Settings) : LogFilter :=
  if verbose then some .debug else LogFilter.ofName settings.logLevel

/-- How a run ends after its command was carried out: warnings come before log records, and both
before the report of a failure. -/
def Outcome.ending (warnings : List Text) (filter : LogFilter) (o : Outcome) : Ending :=
  ⟨o.code, o.stdout, linesOf (warnings ++ logLines filter o.logs ++ o.report.toList)⟩

/-- Runs the command line. -/
def run {m : Type → Type} [Monad m] (host : Host m) (args : List Text) : m Ending := do
  let (args, extras) := Extra.split args
  match Invocation.ofArguments args with
  | .error stop => pure stop.ending
  | .ok invocation =>
    match Settings.load (← settingsLayers host invocation.config) with
    | .error e => pure (refused (settingsReport ++ ": ".toList ++ e.message))
    | .ok settings =>
      match settings.override extras with
      | .error e => pure (refused e.message)
      | .ok (settings, unused) =>
        let outcome ← carryOut host settings invocation.request
        pure (outcome.ending (unused.keys.map unusedWarning)
          (logFilter invocation.verbose settings))

end ProgressTable.CommandLine
