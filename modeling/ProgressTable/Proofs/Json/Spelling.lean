import Mathlib.Tactic
import ProgressTable.Json.Lexeme
import ProgressTable.Proofs.Json.Number

/-!
# Cutting a written text into tokens

`Spells ts t` says that a text is cut into certain tokens wherever it stands. Positions do not
matter for that, only errors tell them. What follows the text matters in one way: a number goes on
as long as there are digits, so behind a text a mark, a blank or the end must follow.

Marks, blanks, quoted texts, literals and numbers are spelled one by one, and `Spells.append` puts
spellings together.
-/

namespace ProgressTable.Json

/-! ## Spellings -/

/-- The tokens of a text that begins at a position. -/
def tokensAt (p : Position) (t : Text) : List Token := (lexemes p t).1.map Lexeme.token

/-- A text with which no number goes on. -/
def Delimited (t : Text) : Prop := ∀ c ∈ t.head?, isBlank c = true ∨ isMark c = true

/-- The text is cut into these tokens, wherever it stands, if a delimited text follows. -/
def Spells (ts : List Token) (t : Text) : Prop :=
  ∀ p rest, Delimited rest → ∃ q, tokensAt p (t ++ rest) = ts ++ tokensAt q rest

theorem delimited_nil : Delimited [] := by
  intro c hc
  exact absurd hc (by simp)

theorem delimited_cons {c : Char} (h : isBlank c = true ∨ isMark c = true) (t : Text) :
    Delimited (c :: t) := by
  intro d hd
  rw [List.head?_cons, Option.mem_some_iff] at hd
  rwa [← hd]

theorem Delimited.append {t rest : Text} (h : Delimited t) (hrest : Delimited rest) :
    Delimited (t ++ rest) := by
  cases t with
  | nil => exact hrest
  | cons c r => exact delimited_cons (h c rfl) _

/-! ## Cutting off one token -/

theorem tokensAt_nil (p : Position) : tokensAt p [] = [] := by
  rw [tokensAt, lexemes]
  rfl

theorem tokensAt_blank {c : Char} (h : isBlank c = true) (p : Position) (r : Text) :
    tokensAt p (c :: r) = tokensAt (p.next c) r := by
  rw [tokensAt, lexemes, if_pos h]
  rfl

theorem tokensAt_token {c : Char} (h : isBlank c = false) {p stop : Position} {r rest : Text}
    {token : Token} (hscan : scanToken p c r = (token, some (stop, rest))) :
    tokensAt p (c :: r) = token :: tokensAt stop rest := by
  have hne : ¬ isBlank c = true := by simp [h]
  rw [tokensAt, lexemes, if_neg hne]
  split
  · next hs =>
    rw [hscan] at hs
    cases hs
  · next hs =>
    rw [hscan] at hs
    cases hs
    rfl

/-! ## Putting spellings together -/

theorem Spells.nil : Spells [] [] := fun p _ _ => ⟨p, rfl⟩

theorem Spells.append {ts us : List Token} {t u : Text} (ht : Spells ts t) (hu : Spells us u)
    (hdelimited : Delimited u) : Spells (ts ++ us) (t ++ u) := by
  intro p rest hrest
  obtain ⟨q, hq⟩ := ht p (u ++ rest) (hdelimited.append hrest)
  obtain ⟨q', hq'⟩ := hu q rest hrest
  exact ⟨q', by rw [List.append_assoc, hq, hq', List.append_assoc]⟩

theorem Spells.blank {ts : List Token} {t : Text} {c : Char} (hc : isBlank c = true)
    (h : Spells ts t) : Spells ts (c :: t) := by
  intro p rest hrest
  obtain ⟨q, hq⟩ := h (p.next c) rest hrest
  exact ⟨q, by rw [List.cons_append, tokensAt_blank hc, hq]⟩

theorem isBlank_of_isMark {c : Char} (h : isMark c = true) : isBlank c = false := by
  simp only [isMark, Bool.or_eq_true, decide_eq_true_eq] at h
  rcases h with ((((rfl | rfl) | rfl) | rfl) | rfl) | rfl <;> decide

theorem Spells.mark {ts : List Token} {t : Text} {c : Char} (hc : isMark c = true)
    (h : Spells ts t) : Spells (.mark c :: ts) (c :: t) := by
  intro p rest hrest
  obtain ⟨q, hq⟩ := h (p.next c) rest hrest
  refine ⟨q, ?_⟩
  have hscan : scanToken p c (t ++ rest) = (.mark c, some (p.next c, t ++ rest)) := by
    rw [scanToken, if_pos hc]
  rw [List.cons_append, tokensAt_token (isBlank_of_isMark hc) hscan, hq, List.cons_append]

/-- A single token is spelled if it is scanned up to its end whenever a delimited text follows. -/
theorem Spells.token {token : Token} {c : Char} {r : Text} (hc : isBlank c = false)
    (h : ∀ p rest, Delimited rest →
      ∃ stop, scanToken p c (r ++ rest) = (token, some (stop, rest))) :
    Spells [token] (c :: r) := by
  intro p rest hrest
  obtain ⟨stop, hstop⟩ := h p rest hrest
  exact ⟨stop, by rw [List.cons_append, tokensAt_token hc hstop, List.singleton_append]⟩

/-! ## Literals -/

theorem scanLiteral_self (word : Text) (p : Position) (rest : Text) :
    ∃ stop, scanLiteral word p (word ++ rest) = .ok (stop, rest) := by
  induction word generalizing p with
  | nil => exact ⟨p, rfl⟩
  | cons w ws ih =>
    obtain ⟨stop, hstop⟩ := ih (p.next w)
    exact ⟨stop, by rw [List.cons_append, scanLiteral, if_pos rfl, hstop]⟩

theorem scanLiteralToken_self (token : Token) (word : Text) (p : Position) (rest : Text) :
    ∃ stop, scanLiteralToken token word p (word ++ rest) = (token, some (stop, rest)) := by
  obtain ⟨stop, hstop⟩ := scanLiteral_self word p rest
  exact ⟨stop, by rw [scanLiteralToken, hstop]⟩

theorem spells_null : Spells [.null] "null".toList :=
  .token (by decide) fun p rest _ => scanLiteralToken_self .null "ull".toList (p.next 'n') rest

theorem spells_true : Spells [.bool true] "true".toList :=
  .token (by decide) fun p rest _ =>
    scanLiteralToken_self (.bool true) "rue".toList (p.next 't') rest

theorem spells_false : Spells [.bool false] "false".toList :=
  .token (by decide) fun p rest _ =>
    scanLiteralToken_self (.bool false) "alse".toList (p.next 'f') rest

/-! ## Quoted texts -/

theorem hexValue?_hexDigit : ∀ n < 16, hexValue? (hexDigit n) = some n := by decide

/-- A control character is read back from the four digits of its escape. -/
theorem scanQuoted_hex (pairs : Bool) (p : Position) {c : Char} (hc : c.toNat < 0x20) (u : Text) :
    ∃ q, scanQuoted pairs .plain p
        (['\\', 'u', '0', '0', hexDigit (c.toNat / 16), hexDigit (c.toNat % 16)] ++ u)
      = (scanQuoted pairs .plain q u).map fun x => (c :: x.1, x.2.1, x.2.2) := by
  have hhigh := hexValue?_hexDigit (c.toNat / 16) (by omega)
  have hlow := hexValue?_hexDigit (c.toNat % 16) (by omega)
  have hunit : 16 * (c.toNat / 16) + c.toNat % 16 = c.toNat := by omega
  have hzero : hexValue? '0' = some 0 := by decide
  have hpairs : isLowSurrogate c.toNat = false ∧ isHighSurrogate c.toNat = false := by
    simp only [isLowSurrogate, isHighSurrogate, Bool.and_eq_false_iff, decide_eq_false_iff_not]
    omega
  -- six characters are read before the scan is back where it was
  refine ⟨((((((p.next '\\').next 'u').next '0').next '0').next
    (hexDigit (c.toNat / 16))).next (hexDigit (c.toNat % 16))), ?_⟩
  simp only [List.cons_append, List.nil_append, scanQuoted, hhigh, hlow, hzero, hunit, hpairs,
    Char.ofNat_toNat, reduceIte, Nat.mul_zero, Nat.zero_add, Nat.reduceAdd, Nat.reduceLT,
    Bool.and_false, Bool.false_eq_true, Char.reduceEq]
  cases scanQuoted pairs .plain _ u <;> rfl

/-- One character is read back from its escape. -/
theorem scanQuoted_escapeChar (pairs : Bool) (p : Position) (c : Char) (u : Text) :
    ∃ q, scanQuoted pairs .plain p (escapeChar c ++ u)
      = (scanQuoted pairs .plain q u).map fun x => (c :: x.1, x.2.1, x.2.2) := by
  -- every escape but that of a control character is one letter behind a backslash
  have hletter : ∀ e : Char, e ≠ 'u' → unescape? e = some c →
      ∃ q, scanQuoted pairs .plain p (['\\', e] ++ u)
        = (scanQuoted pairs .plain q u).map fun x => (c :: x.1, x.2.1, x.2.2) := by
    intro e he hun
    refine ⟨(p.next '\\').next e, ?_⟩
    simp only [List.cons_append, List.nil_append, scanQuoted, if_neg he, hun, reduceIte,
      Char.reduceEq]
    cases scanQuoted pairs .plain _ u <;> rfl
  unfold escapeChar
  split
  · next h => exact hletter '"' (by decide) (by rw [h]; rfl)
  split
  · next h => exact hletter '\\' (by decide) (by rw [h]; rfl)
  split
  · next h => exact hletter 'b' (by decide) (by rw [h]; rfl)
  split
  · next h => exact hletter 't' (by decide) (by rw [h]; rfl)
  split
  · next h => exact hletter 'n' (by decide) (by rw [h]; rfl)
  split
  · next h => exact hletter 'f' (by decide) (by rw [h]; rfl)
  split
  · next h => exact hletter 'r' (by decide) (by rw [h]; rfl)
  split
  · next h => exact scanQuoted_hex pairs p h u
  · next hquote hbackslash _ _ _ _ _ hcontrol =>
    refine ⟨p.next c, ?_⟩
    rw [List.singleton_append, scanQuoted, if_neg hquote, if_neg hbackslash, if_neg hcontrol]
    cases scanQuoted pairs .plain _ u <;> rfl

theorem scanQuoted_escaped (pairs : Bool) (t : Text) (p : Position) (rest : Text) :
    ∃ stop, scanQuoted pairs .plain p (t.flatMap escapeChar ++ '"' :: rest)
      = .ok (t, stop, rest) := by
  induction t generalizing p with
  | nil => exact ⟨p.next '"', by rw [List.flatMap_nil, List.nil_append, scanQuoted, if_pos rfl]⟩
  | cons c r ih =>
    obtain ⟨q, hq⟩ := scanQuoted_escapeChar pairs p c (r.flatMap escapeChar ++ '"' :: rest)
    obtain ⟨stop, hstop⟩ := ih q
    refine ⟨stop, ?_⟩
    rw [List.flatMap_cons, List.append_assoc, hq, hstop]
    rfl

/-- Quoted text as a token. -/
def Token.ofText (t : Text) : Token := .quoted (.ok t) (.ok ())

theorem Spells.quoted {ts : List Token} {u : Text} (t : Text) (h : Spells ts u) :
    Spells (.ofText t :: ts) (quote t ++ u) := by
  intro p rest hrest
  -- the text is scanned twice, once by the reader that only looks for its end
  obtain ⟨stop, hstop⟩ := scanQuoted_escaped false t (p.next '"') (u ++ rest)
  obtain ⟨stop', hstop'⟩ := scanQuoted_escaped true t (p.next '"') (u ++ rest)
  obtain ⟨q, hq⟩ := h stop rest hrest
  refine ⟨q, ?_⟩
  have hscan : scanToken p '"' (t.flatMap escapeChar ++ '"' :: (u ++ rest))
      = (.ofText t, some (stop, u ++ rest)) := by
    rw [scanToken, if_neg (by decide), if_pos rfl, hstop, hstop']
    rfl
  have htext : quote t ++ u ++ rest = '"' :: (t.flatMap escapeChar ++ '"' :: (u ++ rest)) := by
    simp only [quote, List.cons_append, List.append_assoc, List.nil_append]
  rw [htext, tokensAt_token (by decide) hscan, hq, List.cons_append]

theorem spells_quote (t : Text) : Spells [.ofText t] (quote t) := by
  have h := Spells.quoted t Spells.nil
  rwa [List.append_nil] at h

/-! ## Numbers -/

theorem Delimited.endsNumber {t : Text} (h : Delimited t) : EndsNumber t := by
  intro c hc
  have hclass := h c hc
  simp only [isBlank, isMark, Bool.or_eq_true, decide_eq_true_eq] at hclass
  rcases hclass with (((rfl | rfl) | rfl) | rfl) | ((((rfl | rfl) | rfl) | rfl) | rfl) | rfl
    <;> decide

/-- What a number begins with begins nothing else. -/
theorem scanToken_number {c : Char} (hc : c = '-' ∨ c.isDigit = true) {p : Position}
    {r rest : Text} {parts : NumberParts} (h : scanNumber p (c :: r) = .ok (parts, rest)) :
    scanToken p c r = (.number parts.value (.ok ()), some (parts.stop, rest)) := by
  have hmark : ¬ isMark c = true := by
    intro hm
    simp only [isMark, Bool.or_eq_true, decide_eq_true_eq] at hm
    rcases hm with ((((rfl | rfl) | rfl) | rfl) | rfl) | rfl <;> revert hc <;> decide
  have hquote : c ≠ '"' := by rintro rfl; revert hc; decide
  rw [scanToken, if_neg hmark, if_neg hquote, if_pos hc, h]

/-- An integer as a token. -/
def Token.ofInt (n : Int) : Token := .number (.ok (.integer n)) (.ok ())

theorem spells_ofInt {n : Int} (hlo : -(Word.bound63 : Int) ≤ n) (hhi : n < Word.bound64) :
    Spells [.ofInt n] (Numeral.ofInt n) := by
  -- the first character decides which scanner is asked
  have hfirst : ∃ c r, Numeral.ofInt n = c :: r ∧ (c = '-' ∨ c.isDigit = true) := by
    obtain ⟨c, r, h, hc, -⟩ := Numeral.exists_ofNat_eq_cons n.natAbs
    unfold Numeral.ofInt
    split
    · exact ⟨'-', _, rfl, .inl rfl⟩
    · exact ⟨c, r, h, .inr hc⟩
  obtain ⟨c, r, hcons, hc⟩ := hfirst
  have hblank : isBlank c = false := by
    by_contra hb
    simp only [isBlank, Bool.not_eq_false, Bool.or_eq_true, decide_eq_true_eq] at hb
    rcases hb with ((rfl | rfl) | rfl) | rfl <;> revert hc <;> decide
  rw [hcons]
  apply Spells.token hblank
  intro p rest hrest
  obtain ⟨parts, hscan, hvalue⟩ := scanNumber_ofInt hlo hhi hrest.endsNumber p
  rw [hcons, List.cons_append] at hscan
  exact ⟨parts.stop, by rw [scanToken_number hc hscan, hvalue]; rfl⟩

end ProgressTable.Json
