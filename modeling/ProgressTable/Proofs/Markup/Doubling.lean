import Mathlib.Tactic
import ProgressTable.Proofs.Markup.Separator

/-!
# Doubling in place

The first pass of `Separator.double` goes through a text in steps: it keeps a character, or it
overwrites the one before a `^:` and goes on behind the colon. `Doubles` says this of what is read
and what is written, and the pass is this relation (`doubles_iff`). What a step does to the
characters around it is then an induction on the steps, and it shows that a second pass takes the
same steps as the first one. Where no bar is written, doubling is this pass alone: a text keeps its
length and its separators, and is doubled once and for all (`double_inPlace`).
-/

namespace ProgressTable.Separator

/-! ## The steps of the pass -/

/-- A caret separator begins at a place. -/
def CaretAt (t : Text) (i : Nat) : Prop := t[i]? = some '^' ∧ t[i + 1]? = some ':'

instance (t : Text) (i : Nat) : Decidable (CaretAt t i) := inferInstanceAs (Decidable (_ ∧ _))

theorem caretAt_zero {t : Text} : CaretAt t 0 ↔ ∃ r, t = '^' :: ':' :: r := by
  constructor
  · rintro ⟨hcaret, hcolon⟩
    match t, hcaret, hcolon with
    | a :: b :: r, hcaret, hcolon =>
      obtain rfl : a = '^' := Option.some.inj hcaret
      obtain rfl : b = ':' := Option.some.inj hcolon
      exact ⟨r, rfl⟩
  · rintro ⟨r, rfl⟩
    exact ⟨rfl, rfl⟩

/-- The steps from a text to the doubled one. -/
inductive Doubles : Text → Text → Prop
  | done : Doubles [] []
  | keep {a : Char} {t u : Text} (h : a = '\n' ∨ ¬ CaretAt t 0) :
    Doubles t u → Doubles (a :: t) (a :: u)
  | overwrite {a : Char} {t u : Text} (h : a ≠ '\n') :
    Doubles t u → Doubles (a :: '^' :: ':' :: t) ('^' :: '^' :: ':' :: u)

theorem doubles_doubleCarets (t : Text) : Doubles t (doubleCarets t) := by
  induction t using doubleCarets.induct with
  | case1 r ih =>
    rw [doubleCarets_newline]
    exact .keep (.inl rfl) ih
  | case2 a r ha ih =>
    rw [doubleCarets_match r ha]
    exact .overwrite ha ih
  | case3 a r hno ih =>
    have hcaret : ¬ CaretAt r 0 := by
      rw [caretAt_zero]
      rintro ⟨r', hr⟩
      exact hno r' hr
    rw [doubleCarets_cons a hno]
    exact .keep (.inr hcaret) ih
  | case4 =>
    rw [doubleCarets]
    exact .done

/-- No other text is written. -/
theorem Doubles.eq_doubleCarets {t u : Text} (h : Doubles t u) : u = doubleCarets t := by
  induction h with
  | done => rw [doubleCarets]
  | @keep a t u ha _ ih =>
    rcases ha with rfl | hno
    · rw [doubleCarets_newline, ih]
    · rw [doubleCarets_cons a fun r hr => hno (caretAt_zero.2 ⟨r, hr⟩), ih]
  | overwrite ha _ ih => rw [doubleCarets_match _ ha, ih]

theorem doubles_iff {t u : Text} : Doubles t u ↔ u = doubleCarets t :=
  ⟨Doubles.eq_doubleCarets, fun h => h ▸ doubles_doubleCarets t⟩

/-! ## What a place becomes -/

namespace Doubles

variable {t u : Text}

theorem length_eq (h : Doubles t u) : u.length = t.length := by
  induction h with
  | done => rfl
  | keep _ _ ih => rw [List.length_cons, List.length_cons, ih]
  | overwrite _ _ ih => simp only [List.length_cons, ih]

/-- A place where another character is written. -/
theorem of_ne (h : Doubles t u) {i : Nat} (hne : u[i]? ≠ t[i]?) :
    u[i]? = some '^' ∧ t[i]? ≠ some '\n' ∧ CaretAt t (i + 1) := by
  induction h generalizing i with
  | done => exact absurd rfl hne
  | keep _ _ ih =>
    cases i with
    | zero => exact absurd rfl hne
    | succ i => exact ih hne
  | overwrite ha _ ih =>
    match i, hne with
    | 0, _ => exact ⟨rfl, fun heq => ha (Option.some.inj heq), rfl, rfl⟩
    | 1, hne | 2, hne => exact absurd rfl hne
    | i + 3, hne => exact ih hne

/-- Only carets are written anew. -/
theorem getElem?_of_ne_caret (h : Doubles t u) {i : Nat} (hi : u[i]? ≠ some '^') :
    t[i]? = u[i]? := by
  by_contra hne
  exact hi (h.of_ne (Ne.symm hne)).1

/-- A separator of the written text was one before. -/
theorem caretAt (h : Doubles t u) {i : Nat} (hi : CaretAt u i) : CaretAt t i := by
  have hcolon : t[i + 1]? = some ':' := by
    rw [h.getElem?_of_ne_caret (by rw [hi.2]; decide), hi.2]
  refine ⟨?_, hcolon⟩
  by_contra hcaret
  -- a caret written here would stand before a second one, and not before the colon
  have hnext := (h.of_ne (hi.1 ▸ Ne.symm hcaret)).2.2.1
  rw [hcolon] at hnext
  exact absurd hnext (by decide)

/-- What stands before a separator: a caret, if it is not the end of a line or of the separator
before. -/
theorem before (h : Doubles t u) {i : Nat} (hi : CaretAt t (i + 1)) :
    u[i]? = some '^' ∨ t[i]? = some '\n' ∨ ∃ j, i = j + 1 ∧ CaretAt u j := by
  induction h generalizing i with
  | done => exact absurd hi.1 (by simp)
  | keep ha _ ih =>
    cases i with
    | zero => exact .inr (.inl (congrArg some (ha.resolve_right fun hno => hno hi)))
    | succ i =>
      refine (ih hi).imp_right (Or.imp_right ?_)
      rintro ⟨j, rfl, hj⟩
      exact ⟨j + 1, rfl, hj⟩
  | overwrite _ _ ih =>
    match i, hi with
    | 0, _ => exact .inl rfl
    | 1, hi => exact absurd (Option.some.inj hi.1) (by decide)
    | 2, _ => exact .inr (.inr ⟨1, rfl, rfl, rfl⟩)
    | i + 3, hi =>
      refine (ih hi).imp_right (Or.imp_right ?_)
      rintro ⟨j, rfl, hj⟩
      exact ⟨j + 3, rfl, hj⟩

/-- A second pass takes the same steps. -/
theorem again (h : Doubles t u) : Doubles u u := by
  induction h with
  | done => exact .done
  | keep ha hrest ih => exact .keep (ha.imp_right fun hno hcaret => hno (hrest.caretAt hcaret)) ih
  | overwrite _ _ ih => exact .overwrite (by decide) ih

end Doubles

/-! ## Texts without bars -/

/-- How the carets of a text are doubled: in place, before separators only, and before each one
that does not begin a line or follow another one at once. -/
structure InPlace (t u : Text) : Prop where
  length_eq : u.length = t.length
  of_ne : ∀ i, u[i]? ≠ t[i]? → u[i]? = some '^' ∧ t[i]? ≠ some '\n' ∧ CaretAt t (i + 1)
  caretAt : ∀ i, CaretAt u i → CaretAt t i
  before : ∀ i, CaretAt t (i + 1) →
    u[i]? = some '^' ∨ t[i]? = some '\n' ∨ ∃ j, i = j + 1 ∧ CaretAt u j

theorem Doubles.inPlace {t u : Text} (h : Doubles t u) : InPlace t u where
  length_eq := h.length_eq
  of_ne _ := h.of_ne
  caretAt _ := h.caretAt
  before _ := h.before

theorem double_eq_doubleCarets {t : Text} (h : '|' ∉ t) : double t = doubleCarets t :=
  doubleBars_of_not_mem fun hbar => h (mem_of_mem_doubleCarets t hbar)

/-- Carets are doubled in place and once: a second doubling changes nothing, and neither does the
first one if a caret stands before every separator inside a line. -/
theorem double_inPlace {t : Text} (hbar : '|' ∉ t) :
    InPlace t (double t) ∧ double (double t) = double t
    ∧ ((∀ i, CaretAt t (i + 1) → t[i]? = some '^' ∨ t[i]? = some '\n') → double t = t) := by
  have hdoubles : Doubles t (double t) := doubles_iff.2 (double_eq_doubleCarets hbar)
  refine ⟨hdoubles.inPlace, ?_, fun hdoubled => List.ext_getElem? fun i => ?_⟩
  · rw [double_eq_doubleCarets (not_mem_double hbar)]
    exact hdoubles.again.eq_doubleCarets.symm
  · by_contra hne
    obtain ⟨hcaret, hnewline, hi⟩ := hdoubles.of_ne hne
    exact hne (hcaret.trans ((hdoubled i hi).resolve_right hnewline).symm)

/-- Of three separators in a row the second one is written over, and a second doubling does not
bring it back. A row that is written with two carets between its cells stays as it is. -/
theorem double_inPlace_three :
    '|' ∉ "x^:^:^:".toList ∧ double "x^:^:^:".toList = "^^:^^^:".toList
    ∧ double "^^:^^^:".toList = "^^:^^^:".toList
    ∧ '|' ∉ "^:1:A^^:2:B ^".toList ∧ double "^:1:A^^:2:B ^".toList = "^:1:A^^:2:B ^".toList := by
  have hdouble : double "x^:^:^:".toList = "^^:^^^:".toList := by
    simp [double, doubleCarets, doubleBars]
  have hagain := (double_inPlace (t := "x^:^:^:".toList) (by decide)).2.1
  rw [hdouble] at hagain
  refine ⟨by decide, hdouble, hagain, by decide, ?_⟩
  apply (double_inPlace (by decide)).2.2
  intro i hi
  have hlt : i + 1 < 13 := (List.getElem?_eq_some_iff.1 hi.1).1
  have hplaces : ∀ i < 12, CaretAt "^:1:A^^:2:B ^".toList (i + 1) →
      "^:1:A^^:2:B ^".toList[i]? = some '^' ∨ "^:1:A^^:2:B ^".toList[i]? = some '\n' := by decide
  exact hplaces i (by omega) hi

end ProgressTable.Separator
