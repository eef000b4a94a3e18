import ProgressTable.Settings.Conversion
import ProgressTable.Toml.Document

/-!
# Layers of settings

Settings come from several sources: what holds when nothing is said, settings files, and single
values. Each file is laid over those before it, and the single values are laid over all files,
wherever they stand among them. Main definition: `Settings.load`.
-/

namespace ProgressTable.Settings

/-- A source of settings. -/
inductive Layer where
  /-- A settings file: its text if it is there, and whether it must be. -/
  | file (required : Bool) (source : Option Text)
  /-- A single value and the place where it is put. -/
  | value (place : Text) (v : Tree)

namespace Layer

/-- The entries of a file. A file that is not there has none. -/
def fileEntries (required : Bool) : Option Text → Except LoadError (List (Text × Tree))
  | some source => match Toml.Document.read? source with
    | some es => .ok es
    | none => .error .malformedFile
  | none => if required then .error .missingFile else .ok []

/-- Lays a file over the entries read so far. -/
def addFile (root : List (Text × Tree)) : Layer → Except LoadError (List (Text × Tree))
  | file required source => do
    let es ← fileEntries required source
    pure (es.foldl (fun root (k, v) => Tree.putTopLevel root k v) root)
  | value _ _ => pure root

/-- Puts a single value at its place. -/
def addValue (root : List (Text × Tree)) : Layer → Except LoadError (List (Text × Tree))
  | file _ _ => pure root
  | value place v => match Tree.readPlace? place with
    | some steps => .ok (Tree.put v steps (some (.table root))).entries
    | none => .error .malformedPlace

/-- Whether the place of a single value is written as one. -/
def isWellPlaced : Layer → Bool
  | file _ _ => true
  | value place _ => (Tree.readPlace? place).isSome

/-- The entries that the layers give together. A place that is not written as one is found before
any file is read. -/
def entries (layers : List Layer) : Except LoadError (List (Text × Tree)) := do
  if !layers.all isWellPlaced then throw .malformedPlace
  let root ← layers.foldlM addFile Settings.default.toEntries
  layers.foldlM addValue root

end Layer

/-- The settings that the layers give together. -/
def load (layers : List Layer) : Except LoadError Settings := do
  ofEntries (← Layer.entries layers)

end ProgressTable.Settings
