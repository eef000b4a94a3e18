import ProgressTable.Settings.Basic
import ProgressTable.Settings.Tree

/-!
# Reading settings from a tree

A settings file need not use the exact kind of value: a switch may be a number or the word `yes`, a
number may be quoted, and a text may be a number. This file says which value each kind of setting
takes from each kind of tree, and reads the settings section by section.
-/

namespace ProgressTable.Settings

/-- Why settings could not be read. -/
inductive LoadError where
  /-- A file that must be there is not. -/
  | missingFile
  /-- A file is not well formed. -/
  | malformedFile
  /-- A value is set at something that is not written as a place. -/
  | malformedPlace
  /-- A value is of a kind that the setting cannot take. -/
  | wrongKind
  /-- A section is neither a table nor a list, or lacks a setting. -/
  | wrongShape
deriving Repr, DecidableEq

/-- The message of an error. -/
def LoadError.message : LoadError → Text
  | missingFile => "a settings file was not found".toList
  | malformedFile => "a settings file is not well formed".toList
  | malformedPlace => "a value has no place".toList
  | wrongKind => "a setting is of the wrong kind".toList
  | wrongShape => "a section is incomplete".toList

/-! ## Numbers with a fraction -/

namespace Floating

/-- The nearest whole number between two bounds, zero for what is no number. -/
def clamped (least greatest : Int) : Floating → Int
  | finite x =>
    let n : Int := x.magnitude.round
    max least (min greatest (if x.negative then -n else n))
  | infinite true => least
  | infinite false => greatest
  | nan => 0

/-- Whether the number differs from zero. -/
def isNonzero : Floating → Bool
  | finite x => x.magnitude.mantissa != 0
  | _ => true

/-- The number as text: the shortest digits that name it, never with an exponent, and with a point
only where a fraction follows. -/
def toText : Floating → Text
  | finite x => (if x.negative then ['-'] else []) ++
    (if x.magnitude.mantissa = 0 then ['0'] else (Decimal.shortest x.magnitude).positional)
  | infinite true => "-inf".toList
  | infinite false => "inf".toList
  | nan => "NaN".toList

end Floating

namespace Tree

/-! ## Conversions -/

/-- The words for a switch that is on. -/
def onWords : List Text := ["true".toList, "on".toList, "yes".toList]

/-- The words for a switch that is off. -/
def offWords : List Text := ["false".toList, "off".toList, "no".toList]

/-- What a word in any case says of a switch. -/
def readSwitch? (t : Text) : Option Bool :=
  let word := t.map Char.toLower
  if onWords.contains word then some true
  else if offWords.contains word then some false
  else none

/-- The value as a switch. -/
def toBool? : Tree → Option Bool
  | bool b => some b
  | integer n => some (n ≠ 0)
  | floating x => some x.isNonzero
  | text ['1'] => some true
  | text ['0'] => some false
  | text t => readSwitch? t
  | _ => none

/-- The value as a whole number: a switch word counts as one or zero, any other text is read by
the rules of the number's type, and a number with a fraction is rounded into the type's range. -/
def toNumber? (least greatest : Int) (read? : Text → Option Int) : Tree → Option Int
  | bool b => some (if b then 1 else 0)
  | integer n => if least ≤ n ∧ n ≤ greatest then some n else none
  | floating x => some (x.clamped least greatest)
  | text t => match readSwitch? t with
    | some b => some (if b then 1 else 0)
    | none => read? t
  | _ => none

/-- The value as a signed word of 64 bits. -/
def toInt64? (v : Tree) : Option Int :=
  v.toNumber? (-Word.bound63) (Word.bound63 - 1) fun t => (Numeral.readInt64? t).map Int64.toInt

/-- The value as a signed word of 32 bits. -/
def toInt32? (v : Tree) : Option Int32 :=
  v.toInt64?.bind Word.int32?

/-- The value as a count. -/
def toCount? (v : Tree) : Option Nat :=
  (v.toNumber? 0 (Word.bound64 - 1) fun t => (Numeral.readCount? t).map fun n => (n : Int)).map Int.toNat

/-- The value as text. -/
def toText? : Tree → Option Text
  | text t => some t
  | bool true => some "true".toList
  | bool false => some "false".toList
  | integer n => some (Numeral.ofInt n)
  | floating x => some x.toText
  | _ => none

/-! ## Sections -/

/-- A value that could not be converted is of the wrong kind. -/
def converted {α : Type} (x : Option α) : Except LoadError α :=
  match x with
  | some a => .ok a
  | none => .error .wrongKind

/-- The value of a setting of a section. A section may also list its settings in order. -/
def setting? (v : Tree) (name : Text) (place : Nat) : Except LoadError (Option Tree) :=
  match v with
  | table es => .ok (es.lookup name)
  | list ts => .ok ts[place]?
  | _ => .error .wrongShape

/-- Converts a value that is there. -/
def convert? {α : Type} (to? : Tree → Option α) : Option Tree → Except LoadError (Option α)
  | some v => (converted (to? v)).map some
  | none => .ok none

/-- What is required must be there. -/
def required {α : Type} : Option α → Except LoadError α
  | some a => .ok a
  | none => .error .wrongShape

/-- Reads a section with one setting. -/
def readOne {α : Type} (name : Text) (to? : Tree → Option α) (v : Tree) : Except LoadError α := do
  required (← convert? to? (← v.setting? name 0))

/-- Reads a section with two settings. A value of the wrong kind is reported before one that is
missing. -/
def readTwo {α β : Type} (name₁ : Text) (to₁ : Tree → Option α) (name₂ : Text)
    (to₂ : Tree → Option β) (v : Tree) : Except LoadError (α × β) := do
  let a ← convert? to₁ (← v.setting? name₁ 0)
  let b ← convert? to₂ (← v.setting? name₂ 1)
  pure (← required a, ← required b)

end Tree

/-- Reads the settings from the sections of a tree. -/
def ofEntries (root : List (Text × Tree)) : Except LoadError Settings := do
  let sectionOf (name : String) := Tree.required (root.lookup name.toList)
  let maxRanges ← Tree.readOne "max_ranges".toList Tree.toCount? (← sectionOf "element")
  let (dateFormat, utcOffset) ← Tree.readTwo "format".toList Tree.toText?
    "utc_offset_minutes".toList Tree.toInt32? (← sectionOf "dates")
  let preview ← Tree.readOne "preview".toList Tree.toBool? (← sectionOf "render")
  let logLevel ← Tree.readOne "level".toList Tree.toText? (← sectionOf "log")
  pure { maxRanges, dateFormat, utcOffset, preview, logLevel }

/-- The tree of settings. -/
def toEntries (s : Settings) : List (Text × Tree) :=
  [ ("element".toList, .table [("max_ranges".toList, .integer s.maxRanges)]),
    ("dates".toList, .table [("format".toList, .text s.dateFormat),
      ("utc_offset_minutes".toList, .integer s.utcOffset.toInt)]),
    ("render".toList, .table [("preview".toList, .bool s.preview)]),
    ("log".toList, .table [("level".toList, .text s.logLevel)]) ]

end ProgressTable.Settings
