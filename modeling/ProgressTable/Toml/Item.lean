import ProgressTable.Toml.Value

/-!
# Tables under construction

A table of a settings file is not written in one place: its header, the headers of tables in it and
dotted keys each add to it. What may still be added depends on how a table came about, so that is
kept with it until the file has been read.
-/

namespace ProgressTable.Toml

open ProgressTable.Settings.Tree (setEntry)

/-- How a table came about. -/
inductive Origin where
  /-- It has a header of its own. -/
  | header
  /-- It is named within the header of another table. -/
  | withinHeader
  /-- It is named within a dotted key. -/
  | dottedKey
deriving Repr, DecidableEq

/-- An entry of a table under construction: a value, which is complete, a table, or a list of
tables. -/
inductive Item where
  | value (v : Value)
  | table (origin : Origin) (entries : List (Text × Item))
  | tables (elements : List (List (Text × Item)))

namespace Item

/-! ## The finished value -/

mutual

/-- The value of an item. -/
def toValue : Item → Value
  | value v => v
  | table _ es => .table (entriesToValues es)
  | tables ts => .list (elementsToValues ts)

/-- The entries of a table as values. -/
def entriesToValues : List (Text × Item) → List (Text × Value)
  | [] => []
  | (k, i) :: es => (k, i.toValue) :: entriesToValues es

/-- The elements of a list of tables as values. -/
def elementsToValues : List (List (Text × Item)) → List Value
  | [] => []
  | es :: ts => .table (entriesToValues es) :: elementsToValues ts

end

/-! ## Dotted keys -/

/-- Defines the value of a dotted key. Each key is defined once. A dotted key does not go into a
table that has a header, and it does not end in a table that it finds within a header or in a list:
`mayEnd` says whether it may end where it stands. -/
def define (mayEnd : Bool) (v : Value) : List Text → List (Text × Item) →
    Option (List (Text × Item))
  | [], _ => none
  | [k], es =>
    if mayEnd && (es.lookup k).isNone then some (setEntry k (value v) es) else none
  | k :: path, es => match es.lookup k with
    | none => (define true v path []).map fun sub => setEntry k (table .dottedKey sub) es
    | some (table .dottedKey sub) =>
      (define true v path sub).map fun sub => setEntry k (table .dottedKey sub) es
    | some (table .withinHeader sub) =>
      (define false v path sub).map fun sub => setEntry k (table .withinHeader sub) es
    | some (tables ts) => ts.getLast?.bind fun sub =>
      (define false v path sub).map fun sub => setEntry k (tables (ts.dropLast ++ [sub])) es
    | some (table .header _) | some (value _) => none

/-- Defines the values of dotted keys one after the other. -/
def defineAll (es : List (Text × Item)) (vs : List (List Text × Value)) :
    Option (List (Text × Item)) :=
  vs.foldlM (fun es (path, v) => define true v path es) es

/-! ## Headers -/

/-- Changes the table in which a header names a key. On the way to it a list of tables stands for
its last element. -/
def atHeader (change : Text → List (Text × Item) → Option (List (Text × Item))) :
    List Text → List (Text × Item) → Option (List (Text × Item))
  | [], _ => none
  | [k], es => change k es
  | k :: path, es => match es.lookup k with
    | none => (atHeader change path []).map fun sub => setEntry k (table .withinHeader sub) es
    | some (table origin sub) =>
      (atHeader change path sub).map fun sub => setEntry k (table origin sub) es
    | some (tables ts) => ts.getLast?.bind fun sub =>
      (atHeader change path sub).map fun sub => setEntry k (tables (ts.dropLast ++ [sub])) es
    | some (value _) => none

/-- Adds the table below a header, behind all other entries. The name may have been used within
other headers only. -/
def openTable (vs : List (List Text × Value)) (k : Text) (es : List (Text × Item)) :
    Option (List (Text × Item)) := do
  let known ← match es.lookup k with
    | none => some []
    | some (table .withinHeader sub) => some sub
    | some _ => none
  let sub ← defineAll known vs
  pure (es.filter (fun e => e.1 ≠ k) ++ [(k, table .header sub)])

/-- Adds one more element below a header to a list of tables. -/
def openElement (vs : List (List Text × Value)) (k : Text) (es : List (Text × Item)) :
    Option (List (Text × Item)) := do
  let known ← match es.lookup k with
    | none => some []
    | some (tables ts) => some ts
    | some _ => none
  let sub ← defineAll [] vs
  pure (setEntry k (tables (known ++ [sub])) es)

end Item
end ProgressTable.Toml
