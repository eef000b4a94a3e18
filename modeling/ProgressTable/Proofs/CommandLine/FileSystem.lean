import Mathlib.Tactic
import ProgressTable.CommandLine.Host

/-!
# File systems

What a run does to files is said of any `FileSystem`: a storage of which it is known what its files
hold, and to which file a path leads. Its laws are that a text is read where it is held, and that
writing changes one file. They leave open how paths are followed, what files hold that are no texts,
and what can be written.

That a failure to write changes nothing is no law of its own: it leaves a `Storage` no other state.
Nor does anyone else write during a run.
-/

namespace ProgressTable.CommandLine

/-- A storage with states `σ`, whose files are `φ` and hold one of `κ`. -/
structure FileSystem (σ φ κ : Type) [DecidableEq φ] extends Storage σ where
  /-- What a file of text holds. -/
  ofText : Text → κ
  /-- What a file holds, if it is there. -/
  contents : σ → φ → Option κ
  /-- A path leads to a file, which is there or is not there yet. -/
  LeadsTo : σ → Text → φ → Prop
  /-- A text is read by a path to the file that holds it. -/
  read_eq {s path file t} : LeadsTo s path file → contents s file = some (ofText t) →
    read s path = .ok t
  /-- Writing changes the file that the path leads to, and neither another one nor the way to it. -/
  exists_of_write {s path t after} : write s path t = .ok after →
    ∃ file, LeadsTo s path file ∧ LeadsTo after path file
      ∧ contents after = Function.update (contents s) file (some (ofText t))

/-- What was written is read. -/
theorem FileSystem.read_of_write {σ φ κ : Type} [DecidableEq φ] (fs : FileSystem σ φ κ)
    {s after : σ} {path t : Text} (h : fs.write s path t = .ok after) :
    fs.read after path = .ok t := by
  obtain ⟨file, -, hafter, hcontents⟩ := fs.exists_of_write h
  refine fs.read_eq hafter ?_
  rw [hcontents, Function.update_self]

end ProgressTable.CommandLine
