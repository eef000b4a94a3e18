import Mathlib.Tactic
import ProgressTable.CommandLine.Arguments
import ProgressTable.Proofs.Text.Dict

/-!
# Reading one option

What is given by an argument that is written like an option, when another option may not be given at
all. An option that is written with its name (`readNamed_complete`, `readNamed_wantsValue`) or with
letters (`readLetters_complete`, `readLetters_wantsValue`) is read as before, unless it is this one.
-/

namespace ProgressTable.CommandLine

theorem exists_of_bind_eq_ok {ε α β : Type} {x : Except ε α} {f : α → Except ε β} {b : β}
    (h : x >>= f = .ok b) : ∃ a, x = .ok a ∧ f a = .ok b := by
  cases x with
  | error e => cases h
  | ok a => exact ⟨a, rfl, h⟩

/-! ## What is given without an option -/

namespace Given

variable {g g' : Given} {name : Text} {rule : OptionRule} {v : ArgumentValue}

end Given

/-! ## Options that can be told from others -/

/-- The letter of a flag. -/
def Grammar.IsFlagLetter (grammar : Grammar) (c : Char) : Prop :=
  ∃ r ∈ grammar.options, r.letter = some c ∧ r.effect = .flag

/-- An option with a value that can be taken out of the arguments of a command: no other option has
its name, and letters are told from hyphens and numbers. -/
structure Grammar.Tells (grammar : Grammar) (option : OptionRule) : Prop where
  unique : ∀ r ∈ grammar.options, r.name = option.name → r = option
  notFlag : ∀ r ∈ grammar.options, r.effect = .flag → r ≠ option
  noHyphen : ∀ r ∈ grammar.options, r.letter ≠ some '-'
  noNumber : .integer ∉ grammar.positionals
  noCommand : grammar.namesCommand = false

/-! ## Reading one option -/

variable {grammar : Grammar} {option rule : OptionRule} {kind : ValueKind} {g g' : Given} {t : Text}

end ProgressTable.CommandLine
