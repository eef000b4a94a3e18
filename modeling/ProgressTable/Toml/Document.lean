import ProgressTable.Toml.Item
import ProgressTable.Toml.Scalar

/-!
# Settings files

A settings file consists of lines with a key and a value, and of headers that say which table the
lines below them belong to. Main definition: `Document.read?`, the entries of a well-formed file.
-/

namespace ProgressTable.Toml

open Scan
open ProgressTable.Settings (Tree)

/-! ## Keys -/

/-- The characters of a key that is not quoted. -/
def isKeyChar (c : Char) : Bool := c.isAlphanum || c = '_' || c = '-'

/-- One part of a key. -/
def keyPart : Scan Text := basicText <|> literalText <|> do
  let c ← one isKeyChar
  (c :: ·) <$> run isKeyChar

/-- How many levels of values and of keys a file may have, less one. -/
def greatestDepth : Nat := 79

/-- A key: its parts with points between them. -/
def key : Scan (List Text) := do
  let parts ← separated (blanks *> keyPart <* blanks) (word ['.'])
  if parts.length ≤ greatestDepth then pure parts else failure

/-! ## Values -/

/-- Blanks, line ends and comments between the items of a list. A comment ends with its line. -/
def gap : Scan Unit := do
  let _ ← many ((fun _ => ()) <$> one isBlank <|> newline <|> (comment *> newline))

/-- A list of values with commas between them; one more may stand at the end. -/
def list (item : Scan Value) : Scan Value := do
  word ['[']
  let items ← (separated (gap *> item <* gap) (word [','])).option
  if items.isSome then
    let _ ← (word [',']).option
  gap
  word [']']
  pure (.list (items.getD []))

/-- A key and its value. -/
def keyValue (item : Scan Value) : Scan (List Text × Value) := do
  let k ← key
  word ['=']
  blanks
  let v ← item
  pure (k, v)

/-- A table written on one line. -/
def inlineTable (item : Scan Value) : Scan Value := do
  word ['{']
  let entries ← (separated (keyValue item <* blanks) (word [','])).option
  blanks
  word ['}']
  match Item.defineAll [] (entries.getD []) with
  | some es => pure (.table (Item.entriesToValues es))
  | none => failure

/-- A value in which so many lists and tables may be nested. -/
def value : Nat → Scan Value
  | 0 => scalar
  | depth + 1 => list (value depth) <|> inlineTable (value depth) <|> scalar

/-! ## Lines -/

/-- What a line says. -/
inductive Statement where
  /-- The line is empty but for blanks and a comment. -/
  | empty
  /-- The lines below belong to a table. -/
  | table (path : List Text)
  /-- The lines below belong to a new element of a list of tables. -/
  | element (path : List Text)
  | entry (path : List Text) (v : Value)

/-- The end of a line, or of the file. -/
def lineEnd : Scan Unit := newline <|> ending

/-- What may stand behind a statement on its line. -/
def trailing : Scan Unit := do
  blanks
  let _ ← comment.option
  lineEnd

/-- A line of a file, and the blanks before the next one. -/
def statement : Scan Statement :=
  (newline *> pure .empty
    <|> comment *> lineEnd *> pure .empty
    <|> .element <$> (word ['[', '['] *> key <* word [']', ']'] <* trailing)
    <|> .table <$> (word ['['] *> key <* word [']'] <* trailing)
    <|> (fun (k, v) => .entry k v) <$> (keyValue (value greatestDepth) <* trailing))
  <* blanks

/-- The statements of a file. A byte order mark before the first one is dropped. -/
def statements : Scan (List Statement) := do
  let _ ← (one (· = '\ufeff')).option
  blanks
  let ss ← many statement
  ending
  pure ss

/-! ## Documents -/

namespace Document

/-- The keys and values of the lines up to the next header. -/
def leading : List Statement → List (List Text × Value)
  | .entry k v :: ss => (k, v) :: leading ss
  | .empty :: ss => leading ss
  | _ => []

/-- Adds what the headers and the lines below them say. -/
def addHeaders : List Statement → List (Text × Item) → Option (List (Text × Item))
  | [], es => some es
  | .table path :: ss, es =>
    (Item.atHeader (Item.openTable (leading ss)) path es).bind (addHeaders ss)
  | .element path :: ss, es =>
    (Item.atHeader (Item.openElement (leading ss)) path es).bind (addHeaders ss)
  | .empty :: ss, es | .entry _ _ :: ss, es => addHeaders ss es

/-- The entries of a file, or nothing if it is not well formed. A file as a whole is no date. -/
def read? (t : Text) : Option (List (Text × Tree)) := do
  let (ss, _) ← statements t
  let es ← Item.defineAll [] (leading ss)
  let es ← addHeaders ss es
  match (Value.table (Item.entriesToValues es)).toTree? with
  | some (.table es) => some es
  | _ => none

end Document
end ProgressTable.Toml
