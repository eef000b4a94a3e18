import ProgressTable.Text.Basic

/-!
# Scanners

A scanner takes a value off the start of a text, or fails and leaves the text as it was. In a
settings file the first characters of a thing tell what it is, and every mistake makes the whole
file unreadable, so a scanner need not say why it failed.
-/

namespace ProgressTable.Toml

/-- A scanner gives a value and the text behind it. -/
abbrev Scan (α : Type) := StateT Text Option α

namespace Scan

variable {α : Type}

/-- The next character, which stays where it is. -/
def next? : Scan (Option Char) := fun t => some (t.head?, t)

/-- Takes a character of a class. -/
def one (isMember : Char → Bool) : Scan Char
  | [] => none
  | c :: r => if isMember c then some (c, r) else none

/-- Takes a given text. -/
def word (w : Text) : Scan Unit := fun t => (w.isPrefixOf? t).map fun rest => ((), rest)

/-- Takes the longest run of characters of a class; there may be none. -/
def run (isMember : Char → Bool) : Scan Text := fun t => some (t.span isMember)

/-- Takes the end of the text. -/
def ending : Scan Unit
  | [] => some ((), [])
  | _ :: _ => none

/-- What a scanner takes, or nothing where it fails. -/
def option (s : Scan α) : Scan (Option α) := fun t =>
  match s t with
  | some (a, rest) => some (some a, rest)
  | none => some (none, t)

/-- What a scanner takes again and again, at most so many times. -/
def atMost : Nat → Scan α → Scan (List α)
  | 0, _ => pure []
  | n + 1, s => do
    match ← s.option with
    | some a => (a :: ·) <$> atMost n s
    | none => pure []

/-- What a scanner takes again and again until it fails. Each time it takes a character, so the
length of the text bounds the count. -/
def many (s : Scan α) : Scan (List α) := fun t => atMost t.length s t

/-- What a scanner takes at least once, with separators between. A separator that nothing follows
is not taken. -/
def separated (s : Scan α) (separator : Scan Unit) : Scan (List α) := do
  let a ← s
  let rest ← many (separator *> s)
  pure (a :: rest)

/-- Takes exactly so many characters of a class. -/
def exactly (isMember : Char → Bool) : Nat → Scan Text
  | 0 => pure []
  | n + 1 => do
    let c ← one isMember
    (c :: ·) <$> exactly isMember n

end Scan
end ProgressTable.Toml
