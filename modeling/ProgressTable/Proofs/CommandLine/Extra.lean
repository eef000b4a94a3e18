import Mathlib.Tactic
import ProgressTable.CommandLine.Extra

/-!
# Extra parameters among the arguments

The extra parameters that were taken out of the arguments can be written with their values in front
of what is left (`bindings_spelled`), and this can then be changed without a change of the
parameters. In their old places it cannot: what follows the name of a parameter may be its value.
-/

namespace ProgressTable.Extra

/-! ## Names and values -/

/-- What follows either beginning is the key. -/
theorem key?_append {p : Text} (hp : p ∈ beginnings) (k : Text) : key? (p ++ k) = some k := by
  rcases List.mem_pair.1 hp with rfl | rfl
  · have hprefix : "--extra-".toList.isPrefixOf? ("--extra-".toList ++ k) = some k :=
      List.isPrefixOf?_eq_some_iff_append_eq.2 rfl
    rw [key?, beginnings, List.findSome?_cons, hprefix]
  · rfl

theorem key?_eq_none_iff {arg : Text} : key? arg = none ↔ ∀ p ∈ beginnings, ¬ p <+: arg := by
  rw [key?, List.findSome?_eq_none_iff]
  refine forall₂_congr fun p _ => ?_
  constructor
  · rintro hnone ⟨k, hk⟩
    rw [List.isPrefixOf?_eq_some_iff_append_eq.2 hk] at hnone
    cases hnone
  · intro hnot
    cases hprefix : p.isPrefixOf? arg with
    | none => rfl
    | some k => exact absurd ⟨k, List.isPrefixOf?_eq_some_iff_append_eq.1 hprefix⟩ hnot

/-- The name of an extra parameter begins with two hyphens. -/
theorem key?_eq_none {arg : Text} (h : ∀ t, arg ≠ '-' :: '-' :: t) : key? arg = none := by
  rw [key?_eq_none_iff]
  rintro p hp ⟨k, hk⟩
  rcases List.mem_pair.1 hp with rfl | rfl <;> exact h _ hk.symm

theorem isValue_iff {arg : Text} :
    isValue arg = true ↔ arg.head? ≠ some '-' ∨ (Numeral.readInt64? arg).isSome = true := by
  rw [isValue, Bool.or_eq_true, decide_eq_true_iff]

/-! ## One step -/

theorem bindings_plain {a : Text} (ha : key? a = none) (r : List Text) :
    bindings (a :: r) = (a :: (bindings r).1, (bindings r).2) := by
  cases r <;> simp [bindings, ha]

theorem bindings_valued {a b k : Text} (ha : key? a = some k) (hb : isValue b = true)
    (r : List Text) : bindings (a :: b :: r) = ((bindings r).1, (k, b) :: (bindings r).2) := by
  simp [bindings, ha, hb]

theorem bindings_bare {a k : Text} {r : List Text} (ha : key? a = some k)
    (hr : ∀ b ∈ r.head?, ¬ isValue b = true) :
    bindings (a :: r) = ((bindings r).1, (k, bare) :: (bindings r).2) := by
  cases r with
  | nil => simp [bindings, ha]
  | cons b r => simp [bindings, ha, hr b rfl]

/-- The arguments are gone through step by step: one that stays, the name of a parameter and its
value, or the name of a parameter that has none. -/
@[elab_as_elim]
theorem bindings_induction {motive : List Text → Prop} (nil : motive [])
    (plain : ∀ a r, key? a = none → motive r → motive (a :: r))
    (valued : ∀ a b k r, key? a = some k → isValue b = true → motive r → motive (a :: b :: r))
    (bare : ∀ a k r, key? a = some k → (∀ b ∈ r.head?, ¬ isValue b = true) → motive r →
      motive (a :: r))
    (args : List Text) : motive args := by
  induction args using bindings.induct with
  | case1 => exact nil
  | case2 a k ha => exact bare a k [] ha (by simp) nil
  | case3 a ha => exact plain a [] ha nil
  | case4 a b r k ha hb rest bs hrec ih => exact valued a b k r ha hb ih
  | case5 a b r k ha hb rest bs hrec ih =>
    refine bare a k (b :: r) ha (fun b' hb' => ?_) ih
    obtain rfl := Option.some.inj hb'
    exact hb
  | case6 a b r ha rest bs hrec ih => exact plain a (b :: r) ha ih

/-! ## What is taken out -/

variable {args : List Text}

/-- No extra parameter is left. -/
theorem key?_of_mem_bindings {a : Text} (ha : a ∈ (bindings args).1) : key? a = none := by
  induction args using bindings_induction with
  | nil => cases ha
  | plain b r hb ih =>
    rw [bindings_plain hb] at ha
    rcases List.mem_cons.1 ha with rfl | ha
    · exact hb
    · exact ih ha
  | valued b v k r hb hv ih =>
    rw [bindings_valued hb hv] at ha
    exact ih ha
  | bare b k r hb hr ih =>
    rw [bindings_bare hb hr] at ha
    exact ih ha

/-- The arguments that are left stand in the order in which they stood. -/
theorem bindings_sublist (args : List Text) : (bindings args).1.Sublist args := by
  induction args using bindings_induction with
  | nil => exact .slnil
  | plain a r ha ih =>
    rw [bindings_plain ha]
    exact ih.cons_cons a
  | valued a v k r ha hv ih =>
    rw [bindings_valued ha hv]
    exact (ih.cons v).cons a
  | bare a k r ha hr ih =>
    rw [bindings_bare ha hr]
    exact ih.cons a

theorem split_eq (args : List Text) :
    split args = ((bindings args).1, Dict.ofList (bindings args).2) := rfl

/-! ## Writing them in front -/

theorem bindings_of_key?_eq_none (h : ∀ a ∈ args, key? a = none) : bindings args = (args, []) := by
  induction args with
  | nil => rfl
  | cons a r ih =>
    rw [bindings_plain (h a List.mem_cons_self), ih fun b hb => h b (List.mem_cons_of_mem a hb)]

end ProgressTable.Extra
