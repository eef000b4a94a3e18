import ProgressTable.Lookup.Call
import ProgressTable.Text.Numeral

/-!
# The journal

Rendering a table asks the course questions and reports what went wrong. Both are part of what the
program does, so a computation that may do either returns its value together with its journal: the
questions and the log records in the order in which they came up.

`Journaled` is a monad, and its laws hold because journals are appended.
-/

namespace ProgressTable

/-! ## Log records -/

/-- How much a log record matters, the gravest first. -/
inductive LogLevel where
  | error | warn | info | debug | trace
deriving Repr, DecidableEq

/-- A log record: its level, the part of the program that speaks, and what it says. -/
structure LogRecord where
  level : LogLevel
  target : Text
  message : Text
deriving Repr, DecidableEq

/-- Something a computation did besides giving its value. -/
inductive Event where
  | call (c : Call)
  | log (r : LogRecord)
deriving Repr, DecidableEq

/-! ## Journaled computations -/

/-- A value and what was done to get it, in order. -/
structure Journaled (α : Type) where
  value : α
  journal : List Event
deriving Repr, DecidableEq

namespace Journaled

instance : Monad Journaled where
  pure a := ⟨a, []⟩
  bind x f := ⟨(f x.value).value, x.journal ++ (f x.value).journal⟩

variable {α β : Type}

@[simp] theorem value_pure (a : α) : (pure a : Journaled α).value = a := rfl

@[simp] theorem journal_pure (a : α) : (pure a : Journaled α).journal = [] := rfl

@[simp] theorem value_bind (x : Journaled α) (f : α → Journaled β) :
    (x >>= f).value = (f x.value).value := rfl

@[simp] theorem journal_bind (x : Journaled α) (f : α → Journaled β) :
    (x >>= f).journal = x.journal ++ (f x.value).journal := rfl

@[ext] theorem ext {x y : Journaled α} (hv : x.value = y.value)
    (hj : x.journal = y.journal) : x = y := by
  cases x; cases y; simp_all

instance : LawfulMonad Journaled :=
  .mk' Journaled
    (fun _ => by ext <;> simp [Functor.map])
    (fun _ _ => by ext <;> simp)
    (fun _ _ _ => by ext <;> simp [List.append_assoc])

/-- Does one thing and gives nothing. -/
def note (e : Event) : Journaled Unit := ⟨(), [e]⟩

/-- Writes a log record. -/
def log (level : LogLevel) (target message : Text) : Journaled Unit :=
  note (.log ⟨level, target, message⟩)

/-- The questions that were asked, in order. -/
def calls (x : Journaled α) : List Call :=
  x.journal.filterMap fun
    | .call c => some c
    | .log _ => none

/-- The log records that were written, in order. -/
def logs (x : Journaled α) : List LogRecord :=
  x.journal.filterMap fun
    | .call _ => none
    | .log r => some r

end Journaled

/-! ## Printed logs -/

namespace LogLevel

/-- The name of a level in a log line. -/
def name : LogLevel → Text
  | error => "ERROR".toList
  | warn => "WARN".toList
  | info => "INFO".toList
  | debug => "DEBUG".toList
  | trace => "TRACE".toList

/-- How far down the list of levels a level stands. -/
def rank : LogLevel → Nat
  | error => 1
  | warn => 2
  | info => 3
  | debug => 4
  | trace => 5

end LogLevel

/-- The least grave level that is still printed; with none, nothing is printed. -/
abbrev LogFilter := Option LogLevel

/-- Whether a record passes a filter. -/
def LogFilter.admits (f : LogFilter) (r : LogRecord) : Bool :=
  match f with
  | none => false
  | some least => r.level.rank ≤ least.rank

/-- One printed record: its number, level, target and message between bars. -/
def LogRecord.line (number : Nat) (r : LogRecord) : Text :=
  Numeral.ofNat number ++ '|' :: r.level.name ++ '|' :: r.target ++ '|' :: r.message

/-- The printed records that pass the filter, numbered from one. -/
def logLines (f : LogFilter) (rs : List LogRecord) : List Text :=
  (rs.filter f.admits).mapIdx fun i r => r.line (i + 1)

end ProgressTable
