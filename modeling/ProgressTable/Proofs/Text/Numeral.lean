import Mathlib.Tactic
import ProgressTable.Text.Blank
import ProgressTable.Text.Numeral

/-!
# Reading back numerals

The canonical numeral of a number is read back as that number wherever the number fits its word.
Everything rests on `continueNat?_ofNat`, an induction along the digits as `ofNat` writes them; the
readers of signed and bounded numbers add their sign and their bound to it.

The digits that are read as a number are its canonical numeral behind any number of zeros
(`readDigits?_eq_some_iff`); where a plus sign may stand before them, `Denotes` says which texts are
read as a number.
-/

namespace ProgressTable.Numeral

/-! ## Digits -/

theorem digitValue?_digit : ∀ n < 10, digitValue? (digit n) = some n := by decide

theorem isDigit_digit : ∀ n < 10, (digit n).isDigit = true := by decide

theorem digit_eq_zero_iff : ∀ n < 10, (digit n = '0' ↔ n = 0) := by decide

theorem toNat_of_isDigit {c : Char} (h : c.isDigit = true) : 0x30 ≤ c.toNat ∧ c.toNat ≤ 0x39 := by
  simpa [Char.isDigit, UInt32.le_iff_toNat_le] using h

/-- The canonical numeral holds digits only. -/
theorem isDigit_of_mem_ofNat (n : Nat) : ∀ c ∈ ofNat n, c.isDigit = true := by
  induction n using Nat.strong_induction_on with
  | _ n ih =>
    intro c hc
    rw [ofNat] at hc
    split at hc
    · next hn =>
      rw [List.mem_singleton] at hc
      rw [hc]
      exact isDigit_digit n hn
    · next hn =>
      rcases List.mem_append.1 hc with hc | hc
      · exact ih (n / 10) (by omega) c hc
      · rw [List.mem_singleton] at hc
        rw [hc]
        exact isDigit_digit (n % 10) (Nat.mod_lt _ (by omega))

theorem ofNat_ne_nil (n : Nat) : ofNat n ≠ [] := by
  unfold ofNat
  split <;> simp

/-- The canonical numeral is a digit and further digits. -/
theorem exists_ofNat_eq_cons (n : Nat) :
    ∃ c r, ofNat n = c :: r ∧ c.isDigit = true ∧ ∀ d ∈ r, d.isDigit = true := by
  obtain ⟨c, r, h⟩ := List.exists_cons_of_ne_nil (ofNat_ne_nil n)
  have hd := isDigit_of_mem_ofNat n
  rw [h] at hd
  exact ⟨c, r, h, hd c List.mem_cons_self, fun d hr => hd d (List.mem_cons_of_mem c hr)⟩

/-- Only the numeral of zero begins with a zero, and it is a zero alone. -/
theorem ofNat_eq_zero_cons (n : Nat) (r : Text) (h : ofNat n = '0' :: r) : r = [] := by
  induction n using Nat.strong_induction_on generalizing r with
  | _ n ih =>
    rw [ofNat] at h
    split at h
    · exact (List.cons.inj h).2.symm
    · next hn =>
      -- the leading digit is that of the numeral without its last digit, which is not zero
      obtain ⟨c, s, hs⟩ := List.exists_cons_of_ne_nil (ofNat_ne_nil (n / 10))
      have hc : c = '0' := by
        rw [hs] at h
        exact (List.cons.inj h).1
      have hnil : s = [] := ih (n / 10) (by omega) s (by rw [hs, hc])
      have hlt : n / 10 < 10 := by
        by_contra hge
        rw [ofNat, if_neg hge, hnil] at hs
        have hlen := congrArg List.length hs
        have hpos := List.length_pos_of_ne_nil (ofNat_ne_nil (n / 10 / 10))
        simp only [List.length_append, List.length_cons, List.length_nil] at hlen
        omega
      rw [ofNat, if_pos hlt, hnil, hc] at hs
      have := (digit_eq_zero_iff _ hlt).1 (List.cons.inj hs).1
      omega

/-! ## Reading -/

theorem continueNat?_append (s : Nat) (a b : Text) :
    continueNat? s (a ++ b) = (continueNat? s a).bind fun m => continueNat? m b := by
  induction a generalizing s with
  | nil => rfl
  | cons c r ih =>
    rw [List.cons_append, continueNat?, continueNat?]
    cases digitValue? c with
    | none => rfl
    | some d => exact ih _

theorem continueNat?_ofNat (n : Nat) : continueNat? 0 (ofNat n) = some n := by
  induction n using Nat.strong_induction_on with
  | _ n ih =>
    unfold ofNat
    split
    · next hn => simp [continueNat?, digitValue?_digit n hn]
    · next hn =>
      have hd := digitValue?_digit (n % 10) (Nat.mod_lt _ (by omega))
      rw [continueNat?_append, ih (n / 10) (by omega)]
      simp only [Option.bind_some, continueNat?, hd, Option.some.injEq]
      omega

theorem readDigits?_ofNat (n : Nat) : readDigits? (ofNat n) = some n := by
  obtain ⟨c, r, h⟩ := List.exists_cons_of_ne_nil (ofNat_ne_nil n)
  have hr := continueNat?_ofNat n
  rw [h] at hr ⊢
  exact hr

/-- Without a plus sign the digits begin at once. -/
theorem readNat?_eq_readDigits? {t : Text} (h : t.head? ≠ some '+') :
    readNat? t = readDigits? t := by
  rw [readNat?]
  rintro r rfl
  exact h rfl

theorem readNat?_ofNat (n : Nat) : readNat? (ofNat n) = some n := by
  obtain ⟨c, r, h, hc, -⟩ := exists_ofNat_eq_cons n
  have hplus : (ofNat n).head? ≠ some '+' := by
    rw [h, List.head?_cons]
    rintro ⟨⟩
    exact absurd hc (by decide)
  rw [readNat?_eq_readDigits? hplus, readDigits?_ofNat]

theorem ofNat_injective : Function.Injective ofNat := by
  intro m n h
  have hm := continueNat?_ofNat m
  rw [h, continueNat?_ofNat] at hm
  exact (Option.some.inj hm).symm

theorem readInt?_ofInt (n : Int) : readInt? (ofInt n) = some n := by
  unfold ofInt
  split
  · next hn =>
    rw [readInt?, readDigits?_ofNat]
    refine congrArg some (?_ : -(n.natAbs : Int) = n)
    omega
  · next hn =>
    obtain ⟨c, r, h, hc, -⟩ := exists_ofNat_eq_cons n.natAbs
    have hminus : c ≠ '-' := by rintro rfl; exact absurd hc (by decide)
    have hr := readNat?_ofNat n.natAbs
    rw [h] at hr ⊢
    rw [readInt?]
    · rw [hr]
      refine congrArg some (?_ : (n.natAbs : Int) = n)
      omega
    · intro r' hr'
      exact hminus (List.cons.inj hr').1

/-! ## Words -/

theorem int64?_toInt (n : Int64) : Word.int64? n.toInt = some n := by
  have hlo := n.le_toInt
  have hhi := n.toInt_lt
  have hfits : Word.fits Word.bound63 n.toInt = true := by
    have hbound : (Word.bound63 : Int) = 2 ^ 63 := rfl
    simp only [Word.fits, Bool.and_eq_true, decide_eq_true_eq]
    omega
  rw [Word.int64?, if_pos hfits, Int64.ofInt_toInt]

theorem readInt64?_ofInt64 (n : Int64) : readInt64? (ofInt64 n) = some n := by
  rw [readInt64?, ofInt64, readInt?_ofInt]
  exact int64?_toInt n

theorem readUInt32?_ofNat (n : UInt32) : readUInt32? (ofNat n.toNat) = some n := by
  have hlt : n.toNat < Word.bound32 := n.toNat_lt
  rw [readUInt32?, readNat?_ofNat, Option.bind_some, Word.uint32?, if_pos hlt, UInt32.ofNat_toNat]

theorem readCount?_ofNat {n : Nat} (h : n < Word.bound64) : readCount? (ofNat n) = some n := by
  rw [readCount?, readNat?_ofNat, Option.bind_some, Word.count?, if_pos h]

/-- The numeral of a count below 2^63 is read as a signed word of the same value. -/
theorem readInt64?_ofNat {n : Nat} (h : n < Word.bound63) :
    readInt64? (ofNat n) = some (Int64.ofInt n) := by
  have hfits : Word.fits Word.bound63 n = true := by
    simp only [Word.fits, Bool.and_eq_true, decide_eq_true_eq]
    omega
  have hint : readInt? (ofNat n) = some (n : Int) := by
    have h0 := readInt?_ofInt (n : Int)
    rwa [ofInt, if_neg (by omega), Int.natAbs_natCast] at h0
  rw [readInt64?, hint, Option.bind_some, Word.int64?, if_pos hfits]

/-! ## Leading zeros -/

theorem eq_digit_of_digitValue? {c : Char} {d : Nat} (h : digitValue? c = some d) :
    d < 10 ∧ c = digit d := by
  rw [digitValue?] at h
  split at h
  · next hc =>
    have hbounds := toNat_of_isDigit hc
    have hzero : '0'.toNat = 0x30 := rfl
    obtain rfl := Option.some.inj h
    refine ⟨by omega, ?_⟩
    rw [digit, hzero, Nat.add_sub_cancel' hbounds.1, Char.ofNat_toNat]
  · cases h

theorem ofNat_append_digit {n d : Nat} (hn : 0 < n) (hd : d < 10) :
    ofNat (10 * n + d) = ofNat n ++ [digit d] := by
  have hdiv : (10 * n + d) / 10 = n := by omega
  have hmod : (10 * n + d) % 10 = d := by omega
  rw [ofNat, if_neg (by omega), hdiv, hmod]

theorem continueNat?_zeros (k : Nat) : continueNat? 0 (List.replicate k '0') = some 0 := by
  induction k with
  | zero => rfl
  | succ k ih => exact ih

/-- Digits that are read as a number are its numeral behind zeros. -/
theorem exists_zeros_of_continueNat? {t : Text} {n : Nat} (hne : t ≠ [])
    (h : continueNat? 0 t = some n) : ∃ k, t = List.replicate k '0' ++ ofNat n := by
  induction t using List.reverseRecOn generalizing n with
  | nil => exact absurd rfl hne
  | append_singleton s c ih =>
    rw [continueNat?_append, Option.bind_eq_some_iff] at h
    obtain ⟨m, hm, hc⟩ := h
    rw [continueNat?] at hc
    split at hc
    · next d hd =>
      obtain rfl : 10 * m + d = n := Option.some.inj hc
      obtain ⟨hlt, rfl⟩ := eq_digit_of_digitValue? hd
      by_cases hs : s = []
      · subst hs
        obtain rfl : 0 = m := Option.some.inj hm
        refine ⟨0, ?_⟩
        rw [Nat.mul_zero, Nat.zero_add, ofNat, if_pos hlt]
        rfl
      · obtain ⟨k, rfl⟩ := ih hs hm
        by_cases hzero : m = 0
        · subst hzero
          -- the digits so far are zeros, and none of them stands in the numeral
          have hofNat : ofNat 0 = ['0'] := by
            rw [ofNat, if_pos (by omega)]
            rfl
          refine ⟨k + 1, ?_⟩
          rw [Nat.mul_zero, Nat.zero_add, ofNat.eq_def d, if_pos hlt, hofNat,
            ← List.replicate_succ']
        · refine ⟨k, ?_⟩
          rw [ofNat_append_digit (Nat.pos_of_ne_zero hzero) hlt, List.append_assoc]
    · cases hc

theorem readDigits?_eq_some_iff {t : Text} {n : Nat} :
    readDigits? t = some n ↔ ∃ k, t = List.replicate k '0' ++ ofNat n := by
  have hcons {s : Text} (hs : s ≠ []) : readDigits? s = continueNat? 0 s := by
    cases s with
    | nil => exact absurd rfl hs
    | cons c s => rfl
  constructor
  · intro h
    have hne : t ≠ [] := by
      rintro rfl
      cases h
    exact exists_zeros_of_continueNat? hne (hcons hne ▸ h)
  · rintro ⟨k, rfl⟩
    rw [hcons (List.append_ne_nil_of_right_ne_nil _ (ofNat_ne_nil n)), continueNat?_append,
      continueNat?_zeros, Option.bind_some, continueNat?_ofNat]

/-- Digits without a sign are read as a word just if they are its numeral behind zeros. -/
theorem readUInt32?_eq_some_iff {t : Text} {w : UInt32} (hplus : t.head? ≠ some '+') :
    readUInt32? t = some w ↔ ∃ k, t = List.replicate k '0' ++ ofNat w.toNat := by
  rw [readUInt32?, readNat?_eq_readDigits? hplus, ← readDigits?_eq_some_iff,
    Option.bind_eq_some_iff]
  constructor
  · rintro ⟨n, hn, hw⟩
    rw [Word.uint32?] at hw
    split at hw
    · next hlt =>
      obtain rfl := Option.some.inj hw
      rwa [UInt32.toNat_ofNat_of_lt' hlt]
    · cases hw
  · intro h
    have hlt : w.toNat < Word.bound32 := w.toNat_lt
    exact ⟨w.toNat, h, by rw [Word.uint32?, if_pos hlt, UInt32.ofNat_toNat]⟩

/-! ## All numerals of a number -/

/-- A numeral of a number: zeros may stand before its digits, and a plus sign before these. -/
def Denotes (t : Text) (n : Nat) : Prop :=
  ∃ sign ∈ [[], ['+']], ∃ zeros, t = sign ++ (List.replicate zeros '0' ++ ofNat n)

theorem denotes_ofNat (n : Nat) : Denotes (ofNat n) n := ⟨[], List.mem_cons_self, 0, rfl⟩

theorem head?_ne_plus_of_digits (zeros n : Nat) :
    (List.replicate zeros '0' ++ ofNat n).head? ≠ some '+' := by
  intro h
  rcases List.mem_append.1 (List.mem_of_mem_head? h) with hmem | hmem
  · exact absurd (List.eq_of_mem_replicate hmem) (by decide)
  · exact absurd (isDigit_of_mem_ofNat n _ hmem) (by decide)

/-- What is read as a number are its numerals. -/
theorem readNat?_eq_some_iff {t : Text} {n : Nat} : readNat? t = some n ↔ Denotes t n := by
  constructor
  · intro h
    rw [readNat?.eq_def] at h
    split at h
    · obtain ⟨zeros, rfl⟩ := readDigits?_eq_some_iff.1 h
      exact ⟨['+'], by simp, zeros, rfl⟩
    · obtain ⟨zeros, rfl⟩ := readDigits?_eq_some_iff.1 h
      exact ⟨[], by simp, zeros, rfl⟩
  · rintro ⟨sign, hsign, zeros, rfl⟩
    have hdigits : readDigits? (List.replicate zeros '0' ++ ofNat n) = some n :=
      readDigits?_eq_some_iff.2 ⟨zeros, rfl⟩
    rw [List.mem_pair] at hsign
    rcases hsign with rfl | rfl
    · rw [List.nil_append, readNat?_eq_readDigits? (head?_ne_plus_of_digits zeros n), hdigits]
    · exact hdigits

/-- What is read as a count are the numerals of the numbers that fit its word. -/
theorem readCount?_eq_some_iff {t : Text} {n : Nat} :
    readCount? t = some n ↔ Denotes t n ∧ n < Word.bound64 := by
  rw [readCount?, Option.bind_eq_some_iff, ← readNat?_eq_some_iff]
  constructor
  · rintro ⟨m, hm, hcount⟩
    rw [Word.count?] at hcount
    split at hcount
    · next hlt =>
      obtain rfl := Option.some.inj hcount
      exact ⟨hm, hlt⟩
    · cases hcount
  · rintro ⟨hn, hlt⟩
    exact ⟨n, hn, by rw [Word.count?, if_pos hlt]⟩

/-- No text is a numeral of two numbers. -/
theorem Denotes.unique {t : Text} {m n : Nat} (hm : Denotes t m) (hn : Denotes t n) : m = n := by
  rw [← readNat?_eq_some_iff] at hm hn
  exact Option.some.inj (hm.symm.trans hn)

end ProgressTable.Numeral
