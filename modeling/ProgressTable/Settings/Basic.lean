import ProgressTable.Calendar.DateFormat

/-!
# Settings

What the command line may be told once for all its commands: how many slots a form offers, how dates
are written, whether tables are rendered as previews, and how much is logged.
-/

namespace ProgressTable

/-- The settings of the command line. -/
structure Settings where
  /-- How many slots a form offers. -/
  maxRanges : Nat
  dateFormat : Text
  /-- Minutes east of Greenwich. -/
  utcOffset : Int32
  preview : Bool
  logLevel : Text
deriving Repr, DecidableEq

namespace Settings

/-- The settings where nothing was said. -/
def default : Settings where
  maxRanges := 11
  dateFormat := DateFormat.defaultPattern
  utcOffset := 0
  preview := false
  logLevel := "warn".toList

/-- How dates are written. -/
def createDateFormat (s : Settings) : Journaled DateFormat :=
  DateFormat.create s.dateFormat s.utcOffset

end Settings

/-! ## Log levels -/

/-- The filters, by name. -/
def LogFilter.names : List (Text × LogFilter) :=
  [ ("off".toList, none), ("error".toList, some .error), ("warn".toList, some .warn),
    ("info".toList, some .info), ("debug".toList, some .debug), ("trace".toList, some .trace) ]

/-- The filter of a name in any case; a name that is none filters as `warn` does. -/
def LogFilter.ofName (name : Text) : LogFilter :=
  (names.lookup (name.map Char.toLower)).getD (some .warn)

/-- The name of a filter. -/
def LogFilter.name : LogFilter → Text
  | none => "OFF".toList
  | some l => l.name

end ProgressTable
