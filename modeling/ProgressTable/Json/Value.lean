import ProgressTable.Json.Reader

/-!
# JSON values

A value of any kind. The members of an object that was read have rising keys; those of an object
that is to be written stand in the order in which they were put there.
-/

namespace ProgressTable.Json

/-- A JSON value. -/
inductive Value where
  | null
  | bool (b : Bool)
  | number (n : Number)
  | text (t : Text)
  | array (items : List Value)
  | object (members : List (Text × Value))

namespace Value

/-- A natural number as a value. -/
def nat (n : Nat) : Value := .number (.integer n)

/-- A word as a value. -/
def int64 (n : Int64) : Value := .number (.integer n.toInt)

/-- A dictionary as a value. -/
def ofDict {α : Type} (value : α → Value) (d : Dict α) : Value :=
  .object (d.entries.map fun (k, a) => (k, value a))

/-! ## Reading -/

/-- Reads a value that is no container. -/
def readScalar (l : Lexeme) : Except Error Value :=
  match l.token with
  | .null => .ok .null
  | .bool b => .ok (.bool b)
  | .number read _ => read.map .number
  | .quoted read _ => read.map .text
  | .mark _ => .error ⟨.expectedValue, l.seen⟩
  | .stray e => .error e

/-- Reads a value in which at most `depth` containers are nested. -/
def read : (depth : Nat) → Reader Value
  | 0, s => match s.lexemes with
    | [] => .error ⟨.eofInValue, s.ending⟩
    | l :: r => match l.token with
      | .mark '[' | .mark '{' => .error ⟨.tooDeep, l.seen⟩
      | _ => (readScalar l).map fun v => (v, s.withLexemes r)
  | depth + 1, s => match s.lexemes with
    | [] => .error ⟨.eofInValue, s.ending⟩
    | l :: r => match l.token with
      | .mark '[' => (items (read depth) true (r.length + 1) (s.withLexemes r)).map
          fun (vs, s') => (.array vs, s')
      | .mark '{' => (members (read depth) true (r.length + 1) (s.withLexemes r)).map
          fun (ms, s') => (.object (Dict.ofList ms).entries, s')
      | _ => (readScalar l).map fun v => (v, s.withLexemes r)

/-- How many containers may be nested in a text. -/
def greatestDepth : Nat := 127

/-! ## Writing -/

mutual

/-- Writes a value without blanks. -/
def compact : Value → Text
  | .null => "null".toList
  | .bool true => "true".toList
  | .bool false => "false".toList
  | .number n => n.text
  | .text t => quote t
  | .array vs => '[' :: compactItems vs ++ [']']
  | .object ms => '{' :: compactMembers ms ++ ['}']

/-- Writes the items of an array with commas between them. -/
def compactItems : List Value → Text
  | [] => []
  | [v] => v.compact
  | v :: vs => v.compact ++ ',' :: compactItems vs

/-- Writes the members of an object with commas between them. -/
def compactMembers : List (Text × Value) → Text
  | [] => []
  | [(k, v)] => quote k ++ ':' :: v.compact
  | (k, v) :: ms => quote k ++ ':' :: v.compact ++ ',' :: compactMembers ms

end

/-- A line feed and two blanks for each level. -/
def indent (level : Nat) : Text := '\n' :: List.replicate (2 * level) ' '

mutual

/-- Writes a value with each item and each member on a line of its own. -/
def pretty (level : Nat) : Value → Text
  | .array [] => "[]".toList
  | .array vs => '[' :: prettyItems (level + 1) vs ++ indent level ++ [']']
  | .object [] => "\x7b\x7d".toList
  | .object ms => '{' :: prettyMembers (level + 1) ms ++ indent level ++ ['}']
  | v => v.compact

/-- Writes the items of an array, each on a line. -/
def prettyItems (level : Nat) : List Value → Text
  | [] => []
  | [v] => indent level ++ v.pretty level
  | v :: vs => indent level ++ v.pretty level ++ ',' :: prettyItems level vs

/-- Writes the members of an object, each on a line. -/
def prettyMembers (level : Nat) : List (Text × Value) → Text
  | [] => []
  | [(k, v)] => indent level ++ quote k ++ ": ".toList ++ v.pretty level
  | (k, v) :: ms =>
    indent level ++ quote k ++ ": ".toList ++ v.pretty level ++ ',' :: prettyMembers level ms

end

end Value
end ProgressTable.Json
