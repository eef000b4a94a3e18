import ProgressTable.Decimal.Shortest
import ProgressTable.Text.Blank
import ProgressTable.Text.Lowercase

/-!
# Trees of settings

Settings files are read into trees, one file is laid over another, and single values are put at a
place in the result. Laying over goes key by key: a table is merged into the table that stands at
its place, and everything else takes the place of what was there. The case of a key does not
matter: the tree over which others are laid has its keys in lower case.
-/

namespace ProgressTable.Settings

/-- A number with a fraction, and the three that are no numbers. -/
inductive Floating where
  | finite (x : Binary64)
  | infinite (negative : Bool)
  | nan
deriving Repr, DecidableEq

/-- A tree of settings. `nothing` fills the places before an item of a list that were never set. -/
inductive Tree where
  | nothing
  | bool (b : Bool)
  | integer (n : Int)
  | floating (x : Floating)
  | text (t : Text)
  | list (items : List Tree)
  | table (entries : List (Text × Tree))
deriving Repr

namespace Tree

/-- The entries of a table; what is no table has none. -/
def entries : Tree → List (Text × Tree)
  | table es => es
  | _ => []

/-- The items of a list; what is no list has none. -/
def items : Tree → List Tree
  | list ts => ts
  | _ => []

/-- Sets the value of a key in the entries of a table. -/
def setEntry {α : Type} (k : Text) (v : α) : List (Text × α) → List (Text × α)
  | [] => [(k, v)]
  | e :: es => if e.1 = k then (k, v) :: es else e :: setEntry k v es

theorem lookup_setEntry {α : Type} (k k' : Text) (v : α) (es : List (Text × α)) :
    (setEntry k v es).lookup k' = if k' = k then some v else es.lookup k' := by
  induction es with
  | nil => simp only [setEntry, List.lookup_cons, List.lookup_nil]; grind
  | cons e es ih =>
    obtain ⟨k₁, v₁⟩ := e
    simp only [setEntry]
    split <;> simp only [List.lookup_cons] <;> grind

/-! ## Laying one tree over another -/

mutual

/-- Lays a tree over the one that stands at its place, if there is one. A table without entries
says nothing, so it leaves there what it finds. -/
def merge : Tree → Option Tree → Tree
  | table [], old => old.getD (table [])
  | table (e :: es), old => table (mergeEntries (e :: es) ((old.map entries).getD []))
  | nothing, _ => nothing
  | bool b, _ => bool b
  | integer n, _ => integer n
  | floating x, _ => floating x
  | text t, _ => text t
  | list ts, _ => list ts

/-- Lays the entries of a table over the entries of another. -/
def mergeEntries : List (Text × Tree) → List (Text × Tree) → List (Text × Tree)
  | [], base => base
  | (k, v) :: es, base =>
    let k := Text.lowercase k
    mergeEntries es (setEntry k (merge v (base.lookup k)) base)

end

/-! ## Places in a tree -/

/-- One step down a tree: to the value of a key or to an item of a list. An item with a negative
number is counted from the end. -/
inductive Step where
  | key (k : Text)
  | index (i : Int)
deriving Repr, DecidableEq

/-- The place that the number of an item means in a list of some length. -/
def position (length : Nat) (i : Int) : Nat :=
  if 0 ≤ i then i.toNat else length - i.natAbs

/-- The items with as many empty ones behind them as it takes to have an item at a place. -/
def filled (place : Nat) (ts : List Tree) : List Tree :=
  ts ++ List.replicate (place + 1 - ts.length) nothing

/-- Puts a value at a place: under a key it is laid over what is there, as an item it replaces
it. What stands in the way becomes a table or a list. -/
def put (v : Tree) : List Step → Option Tree → Tree
  | [], old => merge v old
  | .key k :: steps, old =>
    let es := (old.map entries).getD []
    table (setEntry k (put v steps (es.lookup k)) es)
  | .index i :: steps, old =>
    let ts := (old.map items).getD []
    let place := position ts.length i
    let ts := filled place ts
    list (ts.set place (if steps.isEmpty then v else put v steps ts[place]?))

/-! ## Written places -/

/-- The characters of a name in a written place. -/
def isNameChar (c : Char) : Bool := c.isAlphanum || c = '_' || c = '-' || c = ' '

/-- The longest name at the start of a text, in lower case, and what stands behind it. -/
def readName? (t : Text) : Option (Text × Text) :=
  match t.span isNameChar with
  | ([], _) => none
  | (name, rest) => some (Text.lowercase name, rest)

/-- Reads a numeral that may have blanks around it, has no plus sign and fits a signed word. -/
def readIndex? (t : Text) : Option Int :=
  match Text.trimBy (fun c => c = ' ' || c = '\t') t with
  | '+' :: _ => none
  | numeral => (Numeral.readInt64? numeral).map Int64.toInt

/-- The number between two brackets and what stands behind the closing one. -/
def readBracketed? (t : Text) : Option (Int × Text) :=
  match t.span (· ≠ ']') with
  | (numeral, _ :: rest) => (readIndex? numeral).map fun i => (i, rest)
  | (_, []) => none

/-- The steps behind the first name of a written place. -/
def readSteps? : (fuel : Nat) → Text → Option (List Step)
  | _, [] => some []
  | fuel + 1, '.' :: t => (readName? t).bind fun (name, rest) =>
    (readSteps? fuel rest).map (.key name :: ·)
  | fuel + 1, '[' :: t => (readBracketed? t).bind fun (i, rest) =>
    (readSteps? fuel rest).map (.index i :: ·)
  | _, _ => none

/-- The steps of a place that is written as names with dots between them and numbers of items in
brackets. Each step takes at least one character. -/
def readPlace? (t : Text) : Option (List Step) :=
  (readName? t).bind fun (name, rest) =>
    (readSteps? rest.length rest).map (.key name :: ·)

example : readPlace? "dates.format".toList = some [.key "dates".toList, .key "format".toList]
    ∧ readPlace? "A[ -1 ].b".toList = some [.key ['a'], .index (-1), .key ['b']]
    ∧ readPlace? "".toList = none ∧ readPlace? "a.".toList = none := by
  decide

/-- Puts a top-level value of a file where its key says, if the key is written as a place, and
under the key as it stands if not. -/
def putTopLevel (root : List (Text × Tree)) (k : Text) (v : Tree) : List (Text × Tree) :=
  let steps := (readPlace? k).getD [.key (Text.lowercase k)]
  (put v steps (some (table root))).entries

end Tree
end ProgressTable.Settings
