import ProgressTable.Settings.Basic
import ProgressTable.Text.Blank
import ProgressTable.Text.Dict
import ProgressTable.Text.Lowercase

/-!
# Extra parameters

Some settings can be given on the command line as extra parameters, which are written like options
but may stand anywhere, also before the name of a command. They are taken out before the other
arguments are read. Main definitions: `Extra.split`, and `Settings.override`, which says what each
parameter does.
-/

namespace ProgressTable

namespace Extra

/-! ## Taking the parameters out -/

/-- The two ways to begin the name of an extra parameter. -/
def beginnings : List Text := ["--extra-".toList, "--extras-".toList]

/-- The key of an argument that names an extra parameter. -/
def key? (arg : Text) : Option Text := beginnings.findSome? fun b => b.isPrefixOf? arg

/-- Whether an argument is the value of the extra parameter before it. What begins with a hyphen is
not, unless it is a number. -/
def isValue (arg : Text) : Bool := arg.head? ≠ some '-' || (Numeral.readInt64? arg).isSome

/-- The value of an extra parameter without one. -/
def bare : Text := "true".toList

/-- The arguments without the extra parameters, and the parameters in order. -/
def bindings : List Text → List Text × List (Text × Text)
  | [] => ([], [])
  | [a] => match key? a with
    | some k => ([], [(k, bare)])
    | none => ([a], [])
  | a :: b :: r => match key? a with
    | some k =>
      if isValue b then
        let (rest, bs) := bindings r
        (rest, (k, b) :: bs)
      else
        let (rest, bs) := bindings (b :: r)
        (rest, (k, bare) :: bs)
    | none =>
      let (rest, bs) := bindings (b :: r)
      (a :: rest, bs)

/-- The arguments without the extra parameters, and the parameters. Of two values for one key the
later one stays. -/
def split (args : List Text) : List Text × Dict Text :=
  let (rest, bs) := bindings args
  (rest, Dict.ofList bs)

/-- Takes the value of the first of some keys that has one; the others keep theirs. -/
def take (keys : List Text) (d : Dict Text) : Option Text × Dict Text :=
  match keys.find? fun k => (d.get? k).isSome with
  | some k => (d.get? k, d.erase k)
  | none => (none, d)

/-! ## Reading their values -/

/-- Why an extra parameter is refused. -/
inductive Error where
  /-- The text is no word for a switch. -/
  | notBoolean (name shown : Text)
  /-- The text is no number, or none that fits. -/
  | notNumber (name shown : Text)
deriving Repr, DecidableEq

/-- The message of an error. -/
def Error.message : Error → Text
  | notBoolean name shown => "Invalid boolean value ".toList ++ Text.inApostrophes shown
    ++ " for --extra-".toList ++ name
  | notNumber name shown => "Invalid number ".toList ++ Text.inApostrophes shown
    ++ " for --extra-".toList ++ name

/-- The words for a switch that is on. -/
def onWords : List Text := ["true".toList, "1".toList, "yes".toList, "y".toList]

/-- The words for a switch that is off. -/
def offWords : List Text := ["false".toList, "0".toList, "no".toList, "n".toList]

/-- Reads a switch. Case does not matter, and the message shows the word in lower case. -/
def readBool (name raw : Text) : Except Error Bool :=
  let word := Text.lowercase raw
  if onWords.contains word then .ok true
  else if offWords.contains word then .ok false
  else .error (.notBoolean name word)

/-- Reads a number. Blanks around it do not matter, and the message shows the text with them. -/
def readNumber {α : Type} (read? : Text → Option α) (name raw : Text) : Except Error α :=
  match read? (Text.trim raw) with
  | some n => .ok n
  | none => .error (.notNumber name raw)

/-- The value that a parameter gives to a setting, or the one that the setting had. -/
def orElse {α : Type} (old : α) (read : Text → Except Error α) : Option Text → Except Error α
  | some raw => read raw
  | none => .ok old

end Extra

/-! ## What they set -/

open Extra in
/-- The settings after the extra parameters, and the parameters that set nothing. -/
def Settings.override (s : Settings) (extras : Dict Text) :
    Except Extra.Error (Settings × Dict Text) := do
  let (raw, extras) := take ["preview".toList] extras
  let preview ← orElse s.preview (readBool "preview".toList) raw
  let (raw, extras) := take ["date-format".toList, "format".toList] extras
  let dateFormat := raw.getD s.dateFormat
  let (raw, extras) := take ["utc-offset".toList, "utc-offset-minutes".toList] extras
  let utcOffset ← orElse s.utcOffset (readNumber Numeral.readInt32? "utc-offset".toList) raw
  let (raw, extras) := take ["max-ranges".toList, "maxranges".toList] extras
  let maxRanges ← orElse s.maxRanges (readNumber Numeral.readCount? "max-ranges".toList) raw
  pure ({ s with maxRanges, dateFormat, utcOffset, preview }, extras)

end ProgressTable
