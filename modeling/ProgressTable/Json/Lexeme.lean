import ProgressTable.Json.Number
import ProgressTable.Json.Quoted

/-!
# Lexemes of JSON text

A JSON text is cut into marks, literals, numbers and quoted texts, each with the places where it
starts and stops; blanks between them are dropped. A lexeme that cannot be read is kept together
with its error, because the error counts only if a reader gets that far and wants it: in the place
of a comma the same characters are a different mistake. Nothing is cut behind a lexeme whose end
cannot be found.
-/

namespace ProgressTable.Json

/-- What a lexeme is. -/
inductive Token where
  /-- A bracket, a brace, a colon or a comma. -/
  | mark (c : Char)
  | null
  | bool (b : Bool)
  /-- A number: its value, and whether it can be passed over. -/
  | number (read : Except Error Number) (skip : Except Error Unit)
  /-- Quoted text: the text, and whether it can be passed over. -/
  | quoted (read : Except Error Text) (skip : Except Error Unit)
  /-- Characters that begin no value, with the error of wanting one. -/
  | stray (e : Error)

/-- A token and its place. -/
structure Lexeme where
  token : Token
  start : Position
  stop : Position

/-- The place behind the first byte of a lexeme. -/
def Lexeme.seen (l : Lexeme) : Position := l.start.plus 1

/-- The blanks of JSON. -/
def isBlank (c : Char) : Bool := c = ' ' || c = '\t' || c = '\n' || c = '\r'

/-- The characters that are lexemes by themselves. -/
def isMark (c : Char) : Bool :=
  c = '{' || c = '}' || c = '[' || c = ']' || c = ':' || c = ','

/-- Scans the rest of a literal. -/
def scanLiteral : Text → Position → Text → Except Error (Position × Text)
  | [], p, t => .ok (p, t)
  | _ :: _, p, [] => .error ⟨.eofInValue, p⟩
  | w :: ws, p, c :: r =>
    if c = w then scanLiteral ws (p.next c) r else .error ⟨.expectedLiteral, p.afterByte c⟩

/-- Scans the literal that begins with a letter. -/
def scanLiteralToken (token : Token) (word : Text) (p : Position) (r : Text) :
    Token × Option (Position × Text) :=
  match scanLiteral word p r with
  | .ok (stop, rest) => (token, some (stop, rest))
  | .error e => (.stray e, none)

/-- Scans the lexeme at the start of a text, and gives the place and the text behind it if its end
can be found. -/
def scanToken (p : Position) (c : Char) (r : Text) : Token × Option (Position × Text) :=
  if isMark c then (.mark c, some (p.next c, r))
  else if c = '"' then
    match scanQuoted false .plain (p.next c) r with
    | .ok (_, stop, rest) =>
      (.quoted ((scanQuoted true .plain (p.next c) r).map Prod.fst) (.ok ()), some (stop, rest))
    | .error e => (.quoted ((scanQuoted true .plain (p.next c) r).map Prod.fst) (.error e), none)
  else if c = '-' ∨ c.isDigit then
    match scanNumber p (c :: r) with
    | .ok (parts, rest) => (.number parts.value (.ok ()), some (parts.stop, rest))
    | .error e => (.number (.error e.read) (.error e.skip), none)
  else if c = 'n' then scanLiteralToken .null "ull".toList (p.next c) r
  else if c = 't' then scanLiteralToken (.bool true) "rue".toList (p.next c) r
  else if c = 'f' then scanLiteralToken (.bool false) "alse".toList (p.next c) r
  else (.stray ⟨.expectedValue, p.plus 1⟩, none)

/-! ## A lexeme takes at least one character -/

theorem scanLiteral_length (word : Text) (p stop : Position) (t rest : Text)
    (h : scanLiteral word p t = .ok (stop, rest)) : rest.length ≤ t.length := by
  induction word generalizing p t with
  | nil => cases h; exact Nat.le_refl _
  | cons w ws ih =>
    cases t with
    | nil => cases h
    | cons c r =>
      simp only [scanLiteral] at h
      split at h
      · exact Nat.le_succ_of_le (ih _ _ h)
      · cases h

theorem scanToken_length (p : Position) (c : Char) (r : Text) (token : Token) (stop : Position)
    (rest : Text) (h : scanToken p c r = (token, some (stop, rest))) :
    rest.length ≤ r.length := by
  have literal : ∀ (tok : Token) (word : Text) (q : Position),
      scanLiteralToken tok word q r = (token, some (stop, rest)) → rest.length ≤ r.length := by
    intro tok word q hl
    unfold scanLiteralToken at hl
    split at hl
    · next hs => cases hl; exact scanLiteral_length _ _ _ _ _ hs
    · cases hl
  unfold scanToken at h
  split at h
  · cases h; exact Nat.le_refl _
  · split at h
    · split at h
      · next hs => cases h; exact scanQuoted_length _ _ _ _ _ hs
      · cases h
    · split at h
      · split at h
        · next hs =>
          cases h
          exact Nat.le_of_lt_succ (scanNumber_length _ _ _ _ hs)
        · cases h
      · split at h
        · exact literal _ _ _ h
        · split at h
          · exact literal _ _ _ h
          · split at h
            · exact literal _ _ _ h
            · cases h

/-! ## Cutting a text -/

/-- The lexemes of a text, and the place behind the text. -/
def lexemes (p : Position) : Text → List Lexeme × Position
  | [] => ([], p)
  | c :: r =>
    if isBlank c then lexemes (p.next c) r
    else match _h : scanToken p c r with
      | (token, none) => ([⟨token, p, p⟩], p)
      | (token, some (stop, rest)) =>
        let (ls, ending) := lexemes stop rest
        (⟨token, p, stop⟩ :: ls, ending)
termination_by t => t.length
decreasing_by
  · exact Nat.lt_succ_self _
  · exact Nat.lt_succ_of_le (scanToken_length _ _ _ _ _ _ _h)

end ProgressTable.Json
