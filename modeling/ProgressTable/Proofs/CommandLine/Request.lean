import Mathlib.Tactic
import ProgressTable.CommandLine.Run

/-!
# What carrying out a request comes to

A request reads files, and only a rendering with an output file writes one. `Carries` lists what may
come of a request on files in some state: it fails, prints its result, prints the errors of a form,
or writes its result. In the first three cases the files stay as they were, and the last one is
reached only if all went well and the file could be written.
-/

namespace ProgressTable.CommandLine

/-! ## Computations on files -/

/-- What a computation gives in a state, and the state that it leaves. -/
def perform {σ α : Type} (s : σ) (x : StateM σ α) : α × σ := x.run s

theorem perform_pure {σ α : Type} (s : σ) (a : α) : perform s (pure a) = (a, s) := rfl

theorem perform_bind {σ α β : Type} (s : σ) (x : StateM σ α) (f : α → StateM σ β) :
    perform s (x >>= f) = perform (perform s x).2 (f (perform s x).1) := rfl

namespace Storage

variable {σ : Type} (files : Storage σ) (s : σ)

theorem perform_workingDirectory :
    perform s files.host.workingDirectory = (files.workingDirectory s, s) := rfl

/-- Reading leaves the files as they are. -/
theorem perform_read (path : Text) :
    perform s (files.host.read path) = (files.read s path, s) := rfl

variable {s}

theorem perform_withFile_ok {path contents : Text} (h : files.read s path = .ok contents)
    (next : Text → StateM σ Outcome) :
    perform s (withFile files.host path next) = perform s (next contents) := by
  rw [withFile, perform_bind, perform_read, h]

theorem perform_withFile_error {path : Text} {e : FileError} (h : files.read s path = .error e)
    (next : Text → StateM σ Outcome) :
    ∃ report, perform s (withFile files.host path next) = (.failed [] report, s) := by
  rw [withFile, perform_bind, perform_read, h]
  exact ⟨_, rfl⟩

theorem perform_withOptionalFile_ok {path contents : Option Text}
    (h : path.mapM (files.read s) = .ok contents) (next : Option Text → StateM σ Outcome) :
    perform s (withOptionalFile files.host path next) = perform s (next contents) := by
  cases path with
  | none =>
    obtain rfl : none = contents := Except.ok.inj h
    rfl
  | some p =>
    cases hp : files.read s p with
    | error e => simp [hp] at h
    | ok t =>
      obtain rfl : some t = contents := by simpa [hp] using h
      exact files.perform_withFile_ok hp _

theorem perform_withOptionalFile_error {path : Option Text} {e : FileError}
    (h : path.mapM (files.read s) = .error e) (next : Option Text → StateM σ Outcome) :
    ∃ report, perform s (withOptionalFile files.host path next) = (.failed [] report, s) := by
  cases path with
  | none => cases h
  | some p =>
    cases hp : files.read s p with
    | error e => exact files.perform_withFile_error hp _
    | ok t => simp [hp] at h

/-- Writing leaves the files as they are if it fails. -/
theorem perform_write (path t : Text) :
    perform s (files.host.write path t) = match files.write s path t with
      | .ok after => (.ok (), after)
      | .error e => (.error e, s) := by
  have hget : perform s (files.host.write path t) = perform s (match files.write s path t with
      | .ok after => do
        set after
        pure (.ok ())
      | .error e => pure (.error e)) := rfl
  rw [hget]
  cases files.write s path t <;> rfl

/-- A file that can be written is written. -/
theorem perform_writeFile_ok {after : σ} {path t : Text} (h : files.write s path t = .ok after)
    (logs : List LogRecord) :
    perform s (writeFile files.host logs path t) = (.done logs [], after) := by
  rw [writeFile, perform_bind, perform_write, h]
  rfl

/-- A file that cannot be written is reported. -/
theorem perform_writeFile_error {e : FileError} {path t : Text}
    (h : files.write s path t = .error e) (logs : List LogRecord) :
    ∃ report, perform s (writeFile files.host logs path t) = (.failed logs report, s) := by
  rw [writeFile, perform_bind, perform_write, h]
  exact ⟨_, rfl⟩

end Storage

/-! ## Carrying out a request -/

namespace Request

/-- The output file of a request. -/
def output? : Request → Option Text
  | .render _ _ _ _ _ output => output
  | _ => none

/-- The same request without an output file. -/
def withoutOutput : Request → Request
  | .render element fixture user target preview _ =>
    .render element fixture user target preview none
  | request => request

end Request

variable {σ : Type}

/-- What carrying out a request comes to, and the state of the files that it leaves. -/
inductive Carries (files : Storage σ) (settings : Settings) (s : σ) : Request → Outcome × σ → Prop
  /-- Something cannot be read, done or written. -/
  | failed (request : Request) (logs : List LogRecord) (report : Text) :
    Carries files settings s request (.failed logs report, s)
  /-- The result is printed. -/
  | printed {request : Request} (h : request.output? = none) (logs : List LogRecord)
    (result : Text) : Carries files settings s request (.done logs (line result), s)
  /-- The errors of a form are printed, if there are any. -/
  | checked {formPath form : Text} {pagePath page : Option Text} {errors : FormErrors}
    (hform : files.read s formPath = .ok form) (hpage : pagePath.mapM (files.read s) = .ok page)
    (hcheck : (Command.validate form page).run.value = .ok errors) (logs : List LogRecord) :
    Carries files settings s (.validate formPath pagePath) (outcomeOfErrors logs errors, s)
  /-- The result is written. Without an output file it would have been printed. -/
  | written {request : Request} {path result : Text} {after : σ} {logs : List LogRecord}
    (houtput : request.output? = some path) (hwrite : files.write s path result = .ok after)
    (hprinted : perform s (carryOut files.host settings request.withoutOutput)
      = (.done logs (line result), s)) :
    Carries files settings s request (.done logs [], after)

namespace Carries

variable {files : Storage σ} {settings : Settings} {s : σ}

/-- A command whose result is printed either fails or prints it. -/
theorem outcomeOf {request : Request} (h : request.output? = none) (x : Command.Run Text) :
    Carries files settings s request
      (CommandLine.outcomeOf x fun logs result => .done logs (line result), s) := by
  rw [CommandLine.outcomeOf]
  cases x.run.value with
  | error e => exact .failed request _ _
  | ok result => exact .printed h _ result

/-- A request that begins with reading a file may fail there. -/
theorem withFile {request : Request} {path : Text} {next : Text → StateM σ Outcome}
    (h : ∀ contents, files.read s path = .ok contents →
      Carries files settings s request (perform s (next contents))) :
    Carries files settings s request (perform s (CommandLine.withFile files.host path next)) := by
  cases hread : files.read s path with
  | error e =>
    obtain ⟨report, hfailed⟩ := files.perform_withFile_error hread next
    rw [hfailed]
    exact .failed request [] report
  | ok contents =>
    rw [files.perform_withFile_ok hread]
    exact h contents hread

theorem withOptionalFile {request : Request} {path : Option Text}
    {next : Option Text → StateM σ Outcome}
    (h : ∀ contents, path.mapM (files.read s) = .ok contents →
      Carries files settings s request (perform s (next contents))) :
    Carries files settings s request
      (perform s (CommandLine.withOptionalFile files.host path next)) := by
  cases hread : path.mapM (files.read s) with
  | error e =>
    obtain ⟨report, hfailed⟩ := files.perform_withOptionalFile_error hread next
    rw [hfailed]
    exact .failed request [] report
  | ok contents =>
    rw [files.perform_withOptionalFile_ok hread]
    exact h contents hread

end Carries

namespace Carries

variable {files : Storage σ} {settings : Settings} {s : σ} {request : Request}
variable {result : Outcome × σ}

end Carries

end ProgressTable.CommandLine
