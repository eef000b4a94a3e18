import Mathlib.Tactic
import ProgressTable.Proofs.Text.Numeral
import ProgressTable.Text.Blank

/-!
# Trimming

A blank at either end of a text makes no difference to the trimmed text, and a text without blanks,
such as a numeral, is not changed by trimming.
-/

namespace ProgressTable.Text

theorem trim_cons {b : Char} (t : Text) (hb : isBlank b = true) : trim (b :: t) = trim t := by
  rw [trim, trim, trimBy, trimBy, List.dropWhile_cons_of_pos hb]

theorem trim_append_singleton {b : Char} (t : Text) (hb : isBlank b = true) :
    trim (t ++ [b]) = trim t := by
  rw [trim, trim, trimBy, trimBy, List.dropWhile_append]
  split
  · next h =>
    rw [List.isEmpty_iff] at h
    rw [h, List.dropWhile_cons_of_pos hb, List.dropWhile_nil]
  · rw [List.reverse_append, List.reverse_singleton, List.singleton_append,
      List.dropWhile_cons_of_pos hb]

theorem dropWhile_isBlank {t : Text} (h : ∀ c ∈ t, isBlank c = false) :
    t.dropWhile isBlank = t := by
  cases t with
  | nil => rfl
  | cons c t => rw [List.dropWhile_cons_of_neg (by simp [h c List.mem_cons_self])]

theorem trim_of_not_blank {t : Text} (h : ∀ c ∈ t, isBlank c = false) : trim t = t := by
  have hrev : ∀ c ∈ t.reverse, isBlank c = false := fun c hc => h c (List.mem_reverse.1 hc)
  rw [trim, trimBy, dropWhile_isBlank h, dropWhile_isBlank hrev, List.reverse_reverse]

/-! ## Numerals -/

theorem isBlank_of_isDigit {c : Char} (h : c.isDigit = true) : isBlank c = false := by
  have hc := Numeral.toNat_of_isDigit h
  simp only [isBlank, Bool.or_eq_false_iff, Bool.and_eq_false_iff, beq_eq_false_iff_ne, ne_eq,
    decide_eq_false_iff_not]
  omega

theorem trim_ofNat (n : Nat) : trim (Numeral.ofNat n) = Numeral.ofNat n :=
  trim_of_not_blank fun c hc => isBlank_of_isDigit (Numeral.isDigit_of_mem_ofNat n c hc)

theorem trim_ofInt (n : Int) : trim (Numeral.ofInt n) = Numeral.ofInt n := by
  apply trim_of_not_blank
  intro c hc
  rw [Numeral.ofInt] at hc
  split at hc
  · rcases List.mem_cons.1 hc with rfl | hc
    · decide
    · exact isBlank_of_isDigit (Numeral.isDigit_of_mem_ofNat _ c hc)
  · exact isBlank_of_isDigit (Numeral.isDigit_of_mem_ofNat _ c hc)

end ProgressTable.Text
