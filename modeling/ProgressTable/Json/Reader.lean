import ProgressTable.Json.Lexeme
import ProgressTable.Text.Dict
import ProgressTable.Text.Escaped

/-!
# Readers of JSON text

A reader takes a value of one type from the front of a text that is cut into lexemes. Readers of
records know the names of their fields, pass over fields that they do not know, and take an array
of the fields in order as well. The first mistake in the order of the text is the one reported.
-/

namespace ProgressTable.Json

/-- The lexemes that are left, and the place behind the text. -/
structure Source where
  lexemes : List Lexeme
  ending : Position

/-- Takes a value from the front of a source. -/
abbrev Reader (α : Type) := Source → Except Error (α × Source)

namespace Source

/-- The source of a text. -/
def ofText (t : Text) : Source :=
  let (ls, ending) := Json.lexemes .start t
  ⟨ls, ending⟩

/-- The source with other lexemes left. -/
def withLexemes (s : Source) (ls : List Lexeme) : Source := { s with lexemes := ls }

/-! ## Items and members -/

/-- Whether an array goes on: gives the source at its next item, behind a comma unless it is the
first one, or nothing at the closing bracket. -/
def nextItem? (first : Bool) (s : Source) : Except Error (Option Source) :=
  match s.lexemes with
  | [] => .error ⟨.eofInList, s.ending⟩
  | l :: r => match l.token, first with
    | .mark ']', _ => .ok none
    | _, true => .ok (some s)
    | .mark ',', false => match r with
      | [] => .error ⟨.eofInValue, s.ending⟩
      | l' :: _ => match l'.token with
        | .mark ']' => .error ⟨.trailingComma, l'.seen⟩
        | _ => .ok (some (s.withLexemes r))
    | _, false => .error ⟨.expectedCommaOrBracket, l.seen⟩

/-- Whether an object goes on: gives the source at its next key, behind a comma unless it is the
first one, or nothing at the closing brace. -/
def nextKey? (first : Bool) (s : Source) : Except Error (Option Source) :=
  match s.lexemes with
  | [] => .error ⟨.eofInObject, s.ending⟩
  | l :: r => match l.token, first with
    | .mark '}', _ => .ok none
    | .quoted _ _, true => .ok (some s)
    | _, true => .error ⟨.keyNotString, l.seen⟩
    | .mark ',', false => match r with
      | [] => .error ⟨.eofInValue, s.ending⟩
      | l' :: _ => match l'.token with
        | .quoted _ _ => .ok (some (s.withLexemes r))
        | .mark '}' => .error ⟨.trailingComma, l'.seen⟩
        | _ => .error ⟨.keyNotString, l'.seen⟩
    | _, false => .error ⟨.expectedCommaOrBrace, l.seen⟩

/-- The place behind an object when one of its readers gave up here: behind the closing brace if
it comes next, and before what comes next otherwise. -/
def leaveObject (s : Source) : Position :=
  match s.lexemes with
  | [] => s.ending
  | l :: _ => match l.token with
    | .mark '}' => l.stop
    | _ => l.start

end Source

/-! ## Marks and keys -/

/-- Reads the key of a member. -/
def key : Reader Text := fun s =>
  match s.lexemes with
  | [] => .error ⟨.eofInObject, s.ending⟩
  | l :: r => match l.token with
    | .quoted read _ => read.map fun t => (t, s.withLexemes r)
    | _ => .error ⟨.keyNotString, l.seen⟩

/-- Reads the colon behind a key. -/
def colon : Reader Unit := fun s =>
  match s.lexemes with
  | [] => .error ⟨.eofInObject, s.ending⟩
  | l :: r => match l.token with
    | .mark ':' => .ok ((), s.withLexemes r)
    | _ => .error ⟨.expectedColon, l.seen⟩

/-- Reads the bracket that closes an array of which no more items are wanted. -/
def closingBracket : Reader Unit := fun s =>
  match s.lexemes with
  | [] => .error ⟨.eofInList, s.ending⟩
  | l :: r => match l.token with
    | .mark ']' => .ok ((), s.withLexemes r)
    | .mark ',' => match r with
      | [] => .error ⟨.trailingCharacters, s.ending⟩
      | l' :: _ => match l'.token with
        | .mark ']' => .error ⟨.trailingComma, l'.seen⟩
        | _ => .error ⟨.trailingCharacters, l'.seen⟩
    | _ => .error ⟨.trailingCharacters, l.seen⟩

/-! ## Scalars -/

/-- How a message shows a number. -/
def Number.shown : Number → Text
  | .integer n => "integer `".toList ++ Numeral.ofInt n ++ "`".toList
  | .float x => "floating point `".toList ++ Decimal.text x ++ "`".toList

/-- The error of a lexeme where a value of another kind was expected. -/
def mismatch (expected : Text) (l : Lexeme) : Error :=
  let wrong (found : Text) (p : Position) : Error := ⟨.wrongType found expected, p⟩
  match l.token with
  | .null => wrong "null".toList l.stop
  | .bool b => wrong ("boolean `".toList ++ (if b then "true".toList else "false".toList)
      ++ "`".toList) l.stop
  | .number (.ok n) _ => wrong n.shown l.stop
  | .number (.error e) _ => e
  | .quoted (.ok t) _ => wrong ("string ".toList ++ Text.shown t) l.stop
  | .quoted (.error e) _ => e
  | .mark '[' => wrong "sequence".toList l.start
  | .mark '{' => wrong "map".toList l.start
  | .mark _ => ⟨.expectedValue, l.seen⟩
  | .stray e => e

/-- Reads one lexeme of a kind that `accept` takes. -/
def scalar {α : Type} (expected : Text) (accept : Lexeme → Option (Except Error α)) : Reader α :=
  fun s => match s.lexemes with
  | [] => .error ⟨.eofInValue, s.ending⟩
  | l :: r => match accept l with
    | some x => x.map fun a => (a, s.withLexemes r)
    | none => .error (mismatch expected l)

/-- Reads a text. -/
def text : Reader Text := scalar "a string".toList fun l => match l.token with
  | .quoted (.ok t) _ => some (.ok t)
  | _ => none

/-- Reads a truth value. -/
def bool : Reader Bool := scalar "a boolean".toList fun l => match l.token with
  | .bool b => some (.ok b)
  | _ => none

/-- Reads an integer that `fit` takes. -/
def integer {α : Type} (expected : Text) (fit : Int → Option α) : Reader α :=
  scalar expected fun l => match l.token with
  | .number (.ok (.integer n)) _ => match fit n with
    | some a => some (.ok a)
    | none => some (.error ⟨.wrongValue (Number.shown (.integer n)) expected, l.stop⟩)
  | _ => none

/-- Reads a signed word. -/
def int64 : Reader Int64 := integer "i64".toList Word.int64?

/-- Reads a count. -/
def count : Reader Nat := integer "usize".toList fun n =>
  if 0 ≤ n then Word.count? n.toNat else none

/-! ## Arrays and objects -/

/-- Reads what stands behind the opening mark of a container. -/
def container {α : Type} (expected : Text) (opening : Char) (body : Reader α) : Reader α :=
  fun s => match s.lexemes with
  | [] => .error ⟨.eofInValue, s.ending⟩
  | l :: r => match l.token with
    | .mark c => if c = opening then body (s.withLexemes r) else .error (mismatch expected l)
    | _ => .error (mismatch expected l)

/-- Reads the items of an array and its closing bracket. Every item takes a lexeme, so there are
no more items than `bound` when that is the number of lexemes. -/
def items {α : Type} (item : Reader α) (first : Bool) : (bound : Nat) → Reader (List α)
  | 0, s => .error ⟨.eofInList, s.ending⟩
  | bound + 1, s => do
    match ← s.nextItem? first with
    | none => pure ([], s.withLexemes s.lexemes.tail)
    | some s' =>
      let (a, s') ← item s'
      let (as, s') ← items item false bound s'
      pure (a :: as, s')

/-- Reads an array. -/
def array {α : Type} (item : Reader α) : Reader (List α) :=
  container "a sequence".toList '[' fun s => items item true (s.lexemes.length + 1) s

/-- Reads the members of an object and its closing brace. -/
def members {α : Type} (value : Reader α) (first : Bool) :
    (bound : Nat) → Reader (List (Text × α))
  | 0, s => .error ⟨.eofInObject, s.ending⟩
  | bound + 1, s => do
    match ← s.nextKey? first with
    | none => pure ([], s.withLexemes s.lexemes.tail)
    | some s' =>
      let (k, s') ← key s'
      let (_, s') ← colon s'
      let (a, s') ← value s'
      let (as, s') ← members value false bound s'
      pure ((k, a) :: as, s')

/-- Reads an object as a dictionary; of two members with one key the later one stays. -/
def dict {α : Type} (value : Reader α) : Reader (Dict α) :=
  container "a map".toList '{' fun s => do
    let (ms, s) ← members value true (s.lexemes.length + 1) s
    pure (Dict.ofList ms, s)

/-! ## Passing over a value -/

/-- What comes next while a value is passed over. -/
inductive SkipState where
  | value
  /-- Behind an opening mark: the first item, or the closing mark. -/
  | opened
  /-- Behind a value: a comma, or a closing mark. -/
  | closed
  | key
  | colon
deriving Repr, DecidableEq

/-- A container that is not closed yet. -/
inductive Frame where
  | array | object
deriving Repr, DecidableEq

/-- Passes over a lexeme where a value may begin. -/
def skipValueLexeme (stack : List Frame) (l : Lexeme) :
    Except Error (SkipState × List Frame) :=
  match l.token with
  | .mark '[' => .ok (.opened, .array :: stack)
  | .mark '{' => .ok (.opened, .object :: stack)
  | .mark _ => .error ⟨.expectedValue, l.seen⟩
  | .null | .bool _ => .ok (.closed, stack)
  | .number _ skip | .quoted _ skip => skip.map fun _ => (.closed, stack)
  | .stray e => .error e

/-- Passes over a lexeme where a key must stand. -/
def skipKeyLexeme (stack : List Frame) (l : Lexeme) : Except Error (SkipState × List Frame) :=
  match l.token with
  | .quoted _ skip => skip.map fun _ => (.colon, stack)
  | _ => .error ⟨.keyNotString, l.seen⟩

/-- Passes over one lexeme. -/
def skipLexeme (state : SkipState) (stack : List Frame) (l : Lexeme) :
    Except Error (SkipState × List Frame) :=
  match state, stack with
  | .value, _ => skipValueLexeme stack l
  | .key, _ => skipKeyLexeme stack l
  | .colon, _ => match l.token with
    | .mark ':' => .ok (.value, stack)
    | _ => .error ⟨.expectedColon, l.seen⟩
  | .opened, .array :: outer => match l.token with
    | .mark ']' => .ok (.closed, outer)
    | _ => skipValueLexeme stack l
  | .opened, .object :: outer => match l.token with
    | .mark '}' => .ok (.closed, outer)
    | _ => skipKeyLexeme stack l
  | .closed, .array :: outer => match l.token with
    | .mark ']' => .ok (.closed, outer)
    | .mark ',' => .ok (.value, stack)
    | _ => .error ⟨.expectedCommaOrBracket, l.seen⟩
  | .closed, .object :: outer => match l.token with
    | .mark '}' => .ok (.closed, outer)
    | .mark ',' => .ok (.key, stack)
    | _ => .error ⟨.expectedCommaOrBrace, l.seen⟩
  | .opened, [] | .closed, [] => .error ⟨.expectedValue, l.seen⟩

/-- What is wrong when the text ends while a value is passed over. -/
def skipEof (state : SkipState) (stack : List Frame) : Problem :=
  match state, stack with
  | .value, _ => .eofInValue
  | .opened, .array :: _ | .closed, .array :: _ => .eofInList
  | _, _ => .eofInObject

/-- Passes over lexemes until the value is complete and all its containers are closed. -/
def skipLexemes (ending : Position) :
    SkipState → List Frame → List Lexeme → Except Error (List Lexeme)
  | .closed, [], ls => .ok ls
  | state, stack, [] => .error ⟨skipEof state stack, ending⟩
  | state, stack, l :: ls => do
    let (state, stack) ← skipLexeme state stack l
    skipLexemes ending state stack ls

/-- Passes over a value, however deeply nested. -/
def skipValue : Reader Unit := fun s => do
  let ls ← skipLexemes s.ending .value [] s.lexemes
  pure ((), s.withLexemes ls)

/-! ## Records -/

/-- A field of a record: its name, other names it goes by, whether it may be left out, and how its
value is read and put into the record. -/
structure Field (α : Type) where
  name : Text
  aliases : List Text
  required : Bool
  read : Reader (α → α)

/-- A field that may be left out. -/
def Field.optional {α β : Type} (name : Text) (value : Reader β) (set : β → α → α) : Field α :=
  ⟨name, [], false, fun s => (value s).map fun (b, s') => (set b, s')⟩

/-- A field that must be given. -/
def Field.needed {α β : Type} (name : Text) (aliases : List Text) (value : Reader β)
    (set : β → α → α) : Field α :=
  ⟨name, aliases, true, fun s => (value s).map fun (b, s') => (set b, s')⟩

/-- A record: what a message calls it, its fields in order, and the values of fields left out. -/
structure Record (α : Type) where
  name : Text
  fields : List (Field α)
  initial : α

namespace Record

variable {α : Type}

/-- The field that goes by a name. -/
def find? (fields : List (Field α)) (name : Text) : Option (Field α) :=
  fields.find? fun f => f.name = name || f.aliases.contains name

/-- The first field that must be given and was not. -/
def missing? (fields : List (Field α)) (seen : List Text) : Option (Field α) :=
  fields.find? fun f => f.required && !seen.contains f.name

/-- Reads the members of a record and the closing brace. -/
def readMembers (fields : List (Field α)) (first : Bool) (seen : List Text) (a : α) :
    (bound : Nat) → Reader α
  | 0, s => .error ⟨.eofInObject, s.ending⟩
  | bound + 1, s => do
    match ← s.nextKey? first with
    | none => match missing? fields seen with
      | some f => .error ⟨.missingField f.name, s.leaveObject⟩
      | none => pure (a, s.withLexemes s.lexemes.tail)
    | some s' =>
      let (k, s') ← key s'
      match find? fields k with
      | none =>
        let (_, s') ← colon s'
        let (_, s') ← skipValue s'
        readMembers fields false seen a bound s'
      | some f =>
        if seen.contains f.name then .error ⟨.duplicateField f.name, s'.leaveObject⟩
        else
          let (_, s') ← colon s'
          let (set, s') ← f.read s'
          readMembers fields false (f.name :: seen) (set a) bound s'

/-- What a message calls a record with its number of fields. -/
def expected (r : Record α) : Text :=
  r.name ++ " with ".toList ++ Numeral.ofNat r.fields.length ++ " elements".toList

/-- Reads the fields of a record from an array, in order, and the closing bracket. -/
def readItems (expected : Text) (index : Nat) (a : α) : List (Field α) → Reader α
  | [], s => do
    let (_, s) ← closingBracket s
    pure (a, s)
  | f :: fs, s => do
    match ← s.nextItem? (index = 0) with
    | none =>
      if f.required then
        .error ⟨.wrongLength index expected, (s.lexemes.head?.map Lexeme.stop).getD s.ending⟩
      else readItems expected (index + 1) a fs s
    | some s' =>
      let (set, s') ← f.read s'
      readItems expected (index + 1) (set a) fs s'

/-- Reads a record. -/
def read (r : Record α) : Reader α := fun s =>
  match s.lexemes with
  | [] => .error ⟨.eofInValue, s.ending⟩
  | l :: ls => match l.token with
    | .mark '{' => readMembers r.fields true [] r.initial (ls.length + 1) (s.withLexemes ls)
    | .mark '[' => readItems r.expected 0 r.initial r.fields (s.withLexemes ls)
    | _ => .error (mismatch r.name l)

end Record

/-! ## Whole texts -/

/-- Reads a text that holds one value and nothing else. -/
def readText {α : Type} (reader : Reader α) (t : Text) : Except Error α := do
  let (a, s) ← reader (Source.ofText t)
  match s.lexemes with
  | [] => pure a
  | l :: _ => .error ⟨.trailingCharacters, l.seen⟩

end ProgressTable.Json
