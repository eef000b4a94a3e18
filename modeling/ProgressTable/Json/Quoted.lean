import ProgressTable.Json.Error

/-!
# Quoted text in JSON

Text stands between quotes, with a backslash before what cannot stand for itself. A character
beyond the first 65536 may be written as two escapes, a high and a low surrogate. Whoever only
passes over a string looks at each escape by itself and does not ask for pairs.
-/

namespace ProgressTable.Json

/-! ## Writing -/

/-- The hexadecimal digit of a number below sixteen, in small letters. -/
def hexDigit (n : Nat) : Char := if n < 10 then Char.ofNat (48 + n) else Char.ofNat (87 + n)

/-- A character as it stands between quotes. -/
def escapeChar (c : Char) : Text :=
  if c = '"' then ['\\', '"']
  else if c = '\\' then ['\\', '\\']
  else if c = '\x08' then ['\\', 'b']
  else if c = '\t' then ['\\', 't']
  else if c = '\n' then ['\\', 'n']
  else if c = '\x0c' then ['\\', 'f']
  else if c = '\r' then ['\\', 'r']
  else if c.toNat < 0x20 then
    ['\\', 'u', '0', '0', hexDigit (c.toNat / 16), hexDigit (c.toNat % 16)]
  else [c]

/-- Text between quotes. -/
def quote (t : Text) : Text := '"' :: t.flatMap escapeChar ++ ['"']

/-! ## Reading -/

/-- The character that an escape of one letter stands for. -/
def unescape? : Char → Option Char
  | '"' => some '"'
  | '\\' => some '\\'
  | '/' => some '/'
  | 'b' => some '\x08'
  | 'f' => some '\x0c'
  | 'n' => some '\n'
  | 'r' => some '\r'
  | 't' => some '\t'
  | _ => none

/-- The value of a hexadecimal digit. -/
def hexValue? (c : Char) : Option Nat :=
  if c.isDigit then some (c.toNat - 48)
  else if 'a' ≤ c ∧ c ≤ 'f' then some (c.toNat - 87)
  else if 'A' ≤ c ∧ c ≤ 'F' then some (c.toNat - 55)
  else none

/-- Whether a unit is the first half of a pair. -/
def isHighSurrogate (u : Nat) : Bool := 0xD800 ≤ u && u ≤ 0xDBFF

/-- Whether a unit is the second half of a pair. -/
def isLowSurrogate (u : Nat) : Bool := 0xDC00 ≤ u && u ≤ 0xDFFF

/-- The character that a pair stands for. -/
def ofSurrogates (high low : Nat) : Char :=
  Char.ofNat (0x10000 + (high - 0xD800) * 0x400 + (low - 0xDC00))

/-- The fault of a bad hexadecimal digit: the missing digits are read as so many bytes, and the
text may end among them. -/
def hexFault (bytes : Nat) (p : Position) : Text → Error
  | [] => if bytes = 0 then ⟨.invalidEscape, p⟩ else ⟨.eofInString, p⟩
  | c :: r =>
    if bytes = 0 then ⟨.invalidEscape, p⟩
    else if bytes < c.utf8Size then ⟨.invalidEscape, p.plus bytes⟩
    else hexFault (bytes - c.utf8Size) (p.next c) r

/-- Where a scan of quoted text stands. A high surrogate waits for its other half. -/
inductive QuotedState where
  | plain
  | afterBackslash (high : Option Nat)
  | inHex (high : Option Nat) (count value : Nat)
  | afterHigh (high : Nat)
deriving Repr, DecidableEq

/-- Scans text up to the closing quote and gives the place and the text behind it. With `pairs`
each surrogate must belong to a pair. -/
def scanQuoted (pairs : Bool) :
    QuotedState → Position → Text → Except Error (Text × Position × Text)
  | _, p, [] => .error ⟨.eofInString, p⟩
  | .plain, p, c :: r =>
    if c = '"' then .ok ([], p.next c, r)
    else if c = '\\' then scanQuoted pairs (.afterBackslash none) (p.next c) r
    else if c.toNat < 0x20 then
      .error ⟨.controlCharacter, if pairs then p.afterByte c else p⟩
    else do
      let (t, stop, rest) ← scanQuoted pairs .plain (p.next c) r
      pure (c :: t, stop, rest)
  | .afterBackslash high, p, c :: r =>
    if c = 'u' then scanQuoted pairs (.inHex high 0 0) (p.next c) r
    else match high, unescape? c with
      | some _, _ => .error ⟨.unfinishedSurrogatePair, p.afterByte c⟩
      | none, none => .error ⟨.invalidEscape, p.afterByte c⟩
      | none, some d => do
        let (t, stop, rest) ← scanQuoted pairs .plain (p.next c) r
        pure (d :: t, stop, rest)
  | .inHex high count value, p, c :: r =>
    match hexValue? c with
    | none => .error (hexFault (4 - count) p (c :: r))
    | some d =>
      let unit := 16 * value + d
      if count < 3 then scanQuoted pairs (.inHex high (count + 1) unit) (p.next c) r
      else match high with
        | some h =>
          if isLowSurrogate unit then do
            let (t, stop, rest) ← scanQuoted pairs .plain (p.next c) r
            pure (ofSurrogates h unit :: t, stop, rest)
          else .error ⟨.loneSurrogate, p.next c⟩
        | none =>
          if pairs && isLowSurrogate unit then .error ⟨.loneSurrogate, p.next c⟩
          else if pairs && isHighSurrogate unit then
            scanQuoted pairs (.afterHigh unit) (p.next c) r
          else do
            let (t, stop, rest) ← scanQuoted pairs .plain (p.next c) r
            pure (Char.ofNat unit :: t, stop, rest)
  | .afterHigh high, p, c :: r =>
    if c = '\\' then scanQuoted pairs (.afterBackslash (some high)) (p.next c) r
    else .error ⟨.unfinishedSurrogatePair, p.afterByte c⟩

private theorem rest_length_of_cons {e : Except Error (Text × Position × Text)} {d : Char}
    {n : Nat} {x : Text × Position × Text} (he : ∀ y, e = .ok y → y.2.2.length ≤ n)
    (h : (do let (t, stop, rest) ← e; pure (d :: t, stop, rest)) = .ok x) :
    x.2.2.length ≤ n := by
  cases e with
  | error _ => cases h
  | ok y => cases h; exact he y rfl

/-- What is left behind quoted text is no longer than the text. -/
theorem scanQuoted_length (pairs : Bool) (s : QuotedState) (p : Position) (t : Text)
    (x : Text × Position × Text) (h : scanQuoted pairs s p t = .ok x) :
    x.2.2.length ≤ t.length := by
  induction t generalizing s p x with
  | nil => cases s <;> simp [scanQuoted] at h
  | cons c r ih =>
    refine Nat.le_trans ?_ (Nat.le_succ r.length)
    cases s with
    | plain =>
      simp only [scanQuoted] at h
      split at h
      · cases h; exact Nat.le_refl _
      · split at h
        · exact ih _ _ _ h
        · split at h
          · cases h
          · exact rest_length_of_cons (ih _ _) h
    | afterBackslash high =>
      simp only [scanQuoted] at h
      split at h
      · exact ih _ _ _ h
      · split at h
        · cases h
        · cases h
        · exact rest_length_of_cons (ih _ _) h
    | inHex high count value =>
      simp only [scanQuoted] at h
      split at h
      · cases h
      · split at h
        · exact ih _ _ _ h
        · split at h
          · split at h
            · exact rest_length_of_cons (ih _ _) h
            · cases h
          · split at h
            · cases h
            · split at h
              · exact ih _ _ _ h
              · exact rest_length_of_cons (ih _ _) h
    | afterHigh high =>
      simp only [scanQuoted] at h
      split at h
      · exact ih _ _ _ h
      · cases h

end ProgressTable.Json
