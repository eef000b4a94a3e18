import ProgressTable.Decimal.Shortest
import ProgressTable.Json.Error

/-!
# Numbers in JSON text

A number is scanned into its sign and its runs of digits, and then valued. Without a fraction, an
exponent and a surplus of digits it is an integer; everything else, negative zero included, is a
binary number, built from as many digits as fit a word of 64 bits.

A scan has two readers: one wants the value, the other only looks for the end of the number. They
describe some faults differently.
-/

namespace ProgressTable.Json

/-- A number that was read. -/
inductive Number where
  /-- An integer that fits a word of 64 bits, signed or not. -/
  | integer (n : Int)
  | float (x : Binary64)
deriving Repr, DecidableEq

/-- The text of a number. -/
def Number.text : Number → Text
  | integer n => Numeral.ofInt n
  | float x => Decimal.text x

/-- What the two readers of a scan report. -/
structure Faults where
  /-- Reported where the value was wanted. -/
  read : Error
  /-- Reported where the value was to be passed over. -/
  skip : Error
deriving Repr, DecidableEq

/-- One report for both readers. -/
def Faults.both (problem : Problem) (p : Position) : Faults :=
  ⟨⟨problem, p⟩, ⟨problem, p⟩⟩

/-! ## The parts of a number -/

/-- The sign and the digits of an exponent, and where the digits begin. -/
structure ExponentPart where
  negative : Bool
  digits : Text
  position : Position
deriving Repr, DecidableEq

/-- A number as it is written. -/
structure NumberParts where
  negative : Bool
  whole : Text
  /-- The digits behind the point, if there is one. -/
  fraction : Option Text
  exponent : Option ExponentPart
  /-- The place behind the number. -/
  stop : Position
deriving Repr, DecidableEq

/-- The digits at the start of a text. -/
def digits (t : Text) : Text := t.takeWhile Char.isDigit

/-- The text behind its digits. -/
def afterDigits (t : Text) : Text := t.dropWhile Char.isDigit

theorem afterDigits_length (t : Text) : (afterDigits t).length ≤ t.length :=
  (List.dropWhile_sublist _).length_le

/-- Scans the digits before the point: a single zero, or digits that do not begin with a zero. -/
def scanWhole (p : Position) : Text → Except Faults (Text × Position × Text)
  | [] => .error ⟨⟨.eofInValue, p⟩, ⟨.invalidNumber, p⟩⟩
  | '0' :: r => match r with
    | d :: _ => if d.isDigit then .error (.both .invalidNumber (p.plus 2))
      else .ok (['0'], p.plus 1, r)
    | [] => .ok (['0'], p.plus 1, r)
  | c :: r =>
    if c.isDigit then .ok (c :: digits r, p.plus (1 + (digits r).length), afterDigits r)
    else .error (.both .invalidNumber (p.afterByte c))

/-- Scans a point and the digits behind it, at least one. -/
def scanFraction (p : Position) : Text → Except Faults (Option Text × Position × Text)
  | '.' :: r => match digits r, r with
    | [], [] => .error ⟨⟨.eofInValue, p.plus 1⟩, ⟨.invalidNumber, p.plus 1⟩⟩
    | [], c :: _ => .error (.both .invalidNumber ((p.plus 1).afterByte c))
    | ds, _ => .ok (some ds, p.plus (1 + ds.length), afterDigits r)
  | t => .ok (none, p, t)

/-- Scans the digits of an exponent, at least one. -/
def scanExponentDigits (negative : Bool) (p : Position) (t : Text) :
    Except Faults (Option ExponentPart × Position × Text) :=
  match digits t, t with
  | [], [] => .error ⟨⟨.eofInValue, p⟩, ⟨.invalidNumber, p⟩⟩
  | [], c :: _ => .error (.both .invalidNumber (p.afterByte c))
  | ds, _ => .ok (some ⟨negative, ds, p⟩, p.plus ds.length, afterDigits t)

/-- Scans an exponent. -/
def scanExponent (p : Position) :
    Text → Except Faults (Option ExponentPart × Position × Text)
  | c :: r =>
    if c = 'e' ∨ c = 'E' then match r with
      | '+' :: r' => scanExponentDigits false (p.plus 2) r'
      | '-' :: r' => scanExponentDigits true (p.plus 2) r'
      | _ => scanExponentDigits false (p.plus 1) r
    else .ok (none, p, c :: r)
  | [] => .ok (none, p, [])

/-- Scans a number behind its sign and gives the text behind it. -/
def scanUnsigned (negative : Bool) (p : Position) (t : Text) :
    Except Faults (NumberParts × Text) := do
  let (whole, p, t) ← scanWhole p t
  let (fraction, p, t) ← scanFraction p t
  let (exponent, p, t) ← scanExponent p t
  pure ({ negative, whole, fraction, exponent, stop := p }, t)

/-- Scans a number and gives the text behind it. -/
def scanNumber (p : Position) : Text → Except Faults (NumberParts × Text)
  | '-' :: r => scanUnsigned true (p.plus 1) r
  | t => scanUnsigned false p t

/-! ## A number takes at least one character -/

theorem scanWhole_length (p : Position) (t : Text) (x : Text × Position × Text)
    (h : scanWhole p t = .ok x) : x.2.2.length < t.length := by
  unfold scanWhole at h
  split at h
  · cases h
  · split at h
    · split at h
      · cases h
      · cases h; exact Nat.lt_succ_self _
    · cases h; exact Nat.lt_succ_self _
  · split at h
    · cases h; exact Nat.lt_succ_of_le (afterDigits_length _)
    · cases h

theorem scanFraction_length (p : Position) (t : Text) (x : Option Text × Position × Text)
    (h : scanFraction p t = .ok x) : x.2.2.length ≤ t.length := by
  unfold scanFraction at h
  split at h
  · split at h
    · cases h
    · cases h
    · cases h; exact Nat.le_succ_of_le (afterDigits_length _)
  · cases h; exact Nat.le_refl _

theorem scanExponentDigits_length (negative : Bool) (p : Position) (t : Text)
    (x : Option ExponentPart × Position × Text)
    (h : scanExponentDigits negative p t = .ok x) : x.2.2.length ≤ t.length := by
  unfold scanExponentDigits at h
  split at h
  · cases h
  · cases h
  · cases h; exact afterDigits_length _

theorem scanExponent_length (p : Position) (t : Text) (x : Option ExponentPart × Position × Text)
    (h : scanExponent p t = .ok x) : x.2.2.length ≤ t.length := by
  unfold scanExponent at h
  split at h
  · split at h
    · split at h
      all_goals
        have := scanExponentDigits_length _ _ _ _ h
        simp only [List.length_cons] at this ⊢
        omega
    · cases h; exact Nat.le_refl _
  · cases h; exact Nat.le_refl _

theorem scanUnsigned_length (negative : Bool) (p : Position) (t rest : Text)
    (parts : NumberParts) (h : scanUnsigned negative p t = .ok (parts, rest)) :
    rest.length < t.length := by
  unfold scanUnsigned at h
  cases hw : scanWhole p t with
  | error _ => rw [hw] at h; cases h
  | ok w =>
    rw [hw] at h
    have h1 := scanWhole_length _ _ _ hw
    simp only [bind, Except.bind] at h
    cases hf : scanFraction w.2.1 w.2.2 with
    | error _ => rw [hf] at h; cases h
    | ok f =>
      rw [hf] at h
      have h2 := scanFraction_length _ _ _ hf
      simp only at h
      cases he : scanExponent f.2.1 f.2.2 with
      | error _ => rw [he] at h; cases h
      | ok e =>
        rw [he] at h
        have h3 := scanExponent_length _ _ _ he
        cases h
        exact Nat.lt_of_le_of_lt h3 (Nat.lt_of_le_of_lt h2 h1)

theorem scanNumber_length (p : Position) (t rest : Text) (parts : NumberParts)
    (h : scanNumber p t = .ok (parts, rest)) : rest.length < t.length := by
  unfold scanNumber at h
  split at h
  · exact Nat.lt_succ_of_lt (scanUnsigned_length _ _ _ _ _ h)
  · exact scanUnsigned_length _ _ _ _ _ h

/-! ## The value of a number -/

/-- The value of a digit. -/
private def value (c : Char) : Nat := c.toNat - '0'.toNat

/-- Reads digits into a significand as long as they fit a word, and gives the digits left over. -/
def significand (sofar : Nat) : Text → Nat × Text
  | [] => (sofar, [])
  | c :: r =>
    let n := 10 * sofar + value c
    if n < Word.bound64 then significand n r else (sofar, c :: r)

/-- Reads the digits of an exponent; an exponent that does not fit its word gives the number of
digits up to the one that is too many. -/
def exponentValue (sofar count : Nat) : Text → Except Nat Nat
  | [] => .ok sofar
  | c :: r =>
    let n := 10 * sofar + value c
    if n < Word.bound31 then exponentValue n (count + 1) r else .error (count + 1)

/-- The value of a number that is not an integer. -/
def NumberParts.float (n : NumberParts) : Except Error Number := do
  let (s, surplus) := significand 0 n.whole
  let (s, unused) := significand s (n.fraction.getD [])
  let places : Int := surplus.length - ((n.fraction.getD []).length - unused.length : Int)
  let outOfRange (p : Position) : Except Error Number := .error ⟨.numberOutOfRange, p⟩
  let zero : Number := .float ⟨n.negative, .zero⟩
  let scaled (e : Int) : Except Error Number := match Magnitude.scaled? s e with
    | some m => .ok (.float ⟨n.negative, m⟩)
    | none => outOfRange n.stop
  match n.exponent with
  | none => scaled places
  | some x => match exponentValue 0 0 x.digits with
    | .ok e => scaled (if x.negative then places - e else places + e)
    | .error count =>
      if s = 0 ∨ x.negative then pure zero else outOfRange (x.position.plus count)

/-- The value of a number. -/
def NumberParts.value (n : NumberParts) : Except Error Number :=
  match n.fraction, n.exponent, significand 0 n.whole with
  | none, none, (s, []) =>
    if n.negative then
      if s = 0 ∨ Word.bound63 < s then n.float else .ok (.integer (-s))
    else .ok (.integer s)
  | _, _, _ => n.float

end ProgressTable.Json
