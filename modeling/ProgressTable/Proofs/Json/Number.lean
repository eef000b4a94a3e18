import Mathlib.Tactic
import ProgressTable.Json.Number
import ProgressTable.Proofs.Text.Numeral

/-!
# Scanning canonical numerals

The canonical numeral of an integer is scanned as a whole if what follows is neither a digit nor a
point nor the mark of an exponent, and its value is the integer if that fits a word of 64 bits,
signed or not.
-/

namespace ProgressTable.Json

open Numeral

/-! ## The digits of a word -/

theorem le_of_continueNat? {s m : Nat} {t : Text} (h : continueNat? s t = some m) : s ≤ m := by
  induction t generalizing s with
  | nil => exact Nat.le_of_eq (Option.some.inj h)
  | cons c r ih =>
    rw [continueNat?] at h
    split at h
    · have := ih h
      omega
    · cases h

theorem significand_cons {c : Char} {d : Nat} (h : digitValue? c = some d) (s : Nat) (r : Text) :
    significand s (c :: r)
      = if 10 * s + d < Word.bound64 then significand (10 * s + d) r else (s, c :: r) := by
  rw [digitValue?] at h
  split at h
  · rw [← Option.some.inj h]
    rfl
  · cases h

/-- Digits whose number fits a word leave no surplus. -/
theorem significand_of_continueNat? {s m : Nat} {t : Text} (h : continueNat? s t = some m)
    (hm : m < Word.bound64) : significand s t = (m, []) := by
  -- no step leaves the word, since the number only grows from here to `m`
  induction t generalizing s with
  | nil => rw [significand, Option.some.inj h]
  | cons c r ih =>
    rw [continueNat?] at h
    split at h
    · next d hd =>
      have hle := le_of_continueNat? h
      rw [significand_cons hd, if_pos (by omega), ih h]
    · cases h

/-! ## Scanning -/

/-- A text with which no number goes on. -/
def EndsNumber (t : Text) : Prop :=
  ∀ c ∈ t.head?, c.isDigit = false ∧ c ≠ '.' ∧ c ≠ 'e' ∧ c ≠ 'E'

theorem digits_append {ds rest : Text} (hds : ∀ c ∈ ds, c.isDigit = true)
    (hrest : EndsNumber rest) : digits (ds ++ rest) = ds ∧ afterDigits (ds ++ rest) = rest := by
  have htake : rest.takeWhile Char.isDigit = [] ∧ rest.dropWhile Char.isDigit = rest := by
    cases rest with
    | nil => exact ⟨rfl, rfl⟩
    | cons c r =>
      have hc := (hrest c rfl).1
      exact ⟨List.takeWhile_cons_of_neg (by simp [hc]), List.dropWhile_cons_of_neg (by simp [hc])⟩
  rw [digits, afterDigits, List.takeWhile_append_of_pos hds, List.dropWhile_append_of_pos hds,
    htake.1, htake.2, List.append_nil]
  exact ⟨rfl, rfl⟩

theorem scanWhole_ofNat (n : Nat) {rest : Text} (hrest : EndsNumber rest) (p : Position) :
    ∃ q, scanWhole p (ofNat n ++ rest) = .ok (ofNat n, q, rest) := by
  obtain ⟨c, r, h, hc, hr⟩ := exists_ofNat_eq_cons n
  by_cases hzero : c = '0'
  · -- a zero stands alone, and no digit follows
    subst hzero
    have hnil := ofNat_eq_zero_cons n r h
    subst hnil
    rw [h]
    cases rest with
    | nil => exact ⟨_, rfl⟩
    | cons d r' =>
      have hd := (hrest d rfl).1
      refine ⟨p.plus 1, ?_⟩
      simp [scanWhole, hd]
  · -- any other first digit takes all digits behind it
    obtain ⟨hdigits, hafter⟩ := digits_append hr hrest
    rw [h, List.cons_append, scanWhole]
    · rw [if_pos hc, hdigits, hafter]
      exact ⟨_, rfl⟩
    · exact hzero

theorem scanFraction_of_endsNumber {t : Text} (h : EndsNumber t) (p : Position) :
    scanFraction p t = .ok (none, p, t) := by
  rw [scanFraction.eq_def]
  split
  · next r => exact absurd rfl (h '.' rfl).2.1
  · rfl

theorem scanExponent_of_endsNumber {t : Text} (h : EndsNumber t) (p : Position) :
    scanExponent p t = .ok (none, p, t) := by
  cases t with
  | nil => rfl
  | cons c r =>
    have hc : ¬ (c = 'e' ∨ c = 'E') := not_or.2 (h c rfl).2.2
    exact if_neg hc

theorem scanUnsigned_ofNat (negative : Bool) (n : Nat) {rest : Text} (hrest : EndsNumber rest)
    (p : Position) :
    ∃ stop, scanUnsigned negative p (ofNat n ++ rest)
      = .ok (⟨negative, ofNat n, none, none, stop⟩, rest) := by
  obtain ⟨q, hq⟩ := scanWhole_ofNat n hrest p
  refine ⟨q, ?_⟩
  simp only [scanUnsigned, hq, scanFraction_of_endsNumber hrest,
    scanExponent_of_endsNumber hrest, bind, Except.bind]
  rfl

/-- An integer that fits a word of 64 bits, signed or not, is read back from its numeral. -/
theorem scanNumber_ofInt {n : Int} (hlo : -(Word.bound63 : Int) ≤ n) (hhi : n < Word.bound64)
    {rest : Text} (hrest : EndsNumber rest) (p : Position) :
    ∃ parts, scanNumber p (ofInt n ++ rest) = .ok (parts, rest)
      ∧ parts.value = .ok (.integer n) := by
  have hword : n.natAbs < Word.bound64 := by
    simp only [Word.bound63, Word.bound64] at *
    omega
  have hvalue := significand_of_continueNat? (continueNat?_ofNat n.natAbs) hword
  rw [ofInt]
  split
  · next hn =>
    obtain ⟨stop, hstop⟩ := scanUnsigned_ofNat true n.natAbs hrest (p.plus 1)
    refine ⟨_, by rw [List.cons_append, scanNumber, hstop], ?_⟩
    -- behind a minus sign the number is neither zero nor below the signed words
    have hfits : ¬ (n.natAbs = 0 ∨ Word.bound63 < n.natAbs) := by omega
    have hneg : -(n.natAbs : Int) = n := by omega
    simp only [NumberParts.value, hvalue, if_pos, if_neg hfits, hneg]
  · next hn =>
    obtain ⟨stop, hstop⟩ := scanUnsigned_ofNat false n.natAbs hrest p
    obtain ⟨c, r, h, hc, -⟩ := exists_ofNat_eq_cons n.natAbs
    have hminus : c ≠ '-' := by rintro rfl; exact absurd hc (by decide)
    -- the first digit is no minus sign
    have hscan : scanNumber p (ofNat n.natAbs ++ rest)
        = scanUnsigned false p (ofNat n.natAbs ++ rest) := by
      rw [h, List.cons_append, scanNumber]
      intro r' heq
      exact hminus (List.cons.inj heq).1
    refine ⟨_, hscan.trans hstop, ?_⟩
    have hpos : (n.natAbs : Int) = n := by omega
    simp only [NumberParts.value, hvalue, Bool.false_eq_true, if_false, hpos]

end ProgressTable.Json
