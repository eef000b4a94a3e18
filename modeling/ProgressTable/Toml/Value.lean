import ProgressTable.Settings.Tree
import ProgressTable.Toml.Moment

/-!
# Values of settings files

What a settings file says, before it is read as settings. Dates are values of their own here; as
settings they are texts. A date may also be written as a table with a reserved key, so a table that
begins with that key is a date or a mistake.
-/

namespace ProgressTable.Toml

open ProgressTable.Settings (Floating Tree)

/-- A value. The entries of a table stand in the order in which they were written. -/
inductive Value where
  | bool (b : Bool)
  | integer (n : Int)
  | floating (x : Floating)
  | text (t : Text)
  /-- A date, a time of day, or both, as text. -/
  | moment (t : Text)
  | list (items : List Value)
  | table (entries : List (Text × Value))

namespace Value

/-- The key under which a table holds the text of a date. -/
def momentKey : Text := "$__toml_private_datetime".toList

/-- The date that a table with the reserved key stands for. -/
def reservedMoment? : Value → Option Text
  | text t => Moment.read? t
  | _ => none

mutual

/-- The tree of a value. What stands behind the reserved key of a date does not matter. -/
def toTree? : Value → Option Tree
  | bool b => some (.bool b)
  | integer n => some (.integer n)
  | floating x => some (.floating x)
  | text t => some (.text t)
  | moment t => some (.text t)
  | list vs => (listToTrees? vs).map .list
  | table es => match es.head? with
    | some (k, v) =>
      if k = momentKey then v.reservedMoment?.map .text else (tableToTrees? es).map .table
    | none => some (.table [])

/-- The items of a list as trees. -/
def listToTrees? : List Value → Option (List Tree)
  | [] => some []
  | v :: vs => do
    let t ← v.toTree?
    pure (t :: (← listToTrees? vs))

/-- The entries of a table as trees. -/
def tableToTrees? : List (Text × Value) → Option (List (Text × Tree))
  | [] => some []
  | (k, v) :: es => do
    let t ← v.toTree?
    pure ((k, t) :: (← tableToTrees? es))

end

end Value
end ProgressTable.Toml
