import Mathlib.Tactic
import ProgressTable.Proofs.CommandLine.Extra
import ProgressTable.Proofs.Text.Dict

/-!
# Where extra parameters may stand

What is taken out of the arguments is decided by an argument and the one behind it, so the arguments
may be cut wherever the name of an extra parameter does not come last (`bindings_append`). A
parameter that is written with its value can therefore stand between any other arguments
(`split_valued`). One that is written without a value cannot: an argument behind it that may be a
value is taken for its value (`split_preview_iff`, `preview_takes_file`).
-/

namespace ProgressTable.Extra

/-! ## Where the arguments can be cut -/

/-- Behind an argument that names no extra parameter everything begins anew. -/
theorem bindings_append {xs : List Text} (hlast : ∀ a ∈ xs.getLast?, key? a = none)
    (ys : List Text) : bindings (xs ++ ys)
      = ((bindings xs).1 ++ (bindings ys).1, (bindings xs).2 ++ (bindings ys).2) := by
  induction xs using bindings_induction with
  | nil => rfl
  | plain a r ha ih =>
    have hr : ∀ b ∈ r.getLast?, key? b = none := fun b hb => hlast b (List.mem_getLast?_cons hb)
    rw [List.cons_append, bindings_plain ha, bindings_plain ha, ih hr, List.cons_append]
  | valued a b k r ha hb ih =>
    have hr : ∀ c ∈ r.getLast?, key? c = none := fun c hc =>
      hlast c (List.mem_getLast?_cons (List.mem_getLast?_cons hc))
    rw [List.cons_append, List.cons_append, bindings_valued ha hb, bindings_valued ha hb, ih hr,
      List.cons_append]
  | bare a k r ha hr ih =>
    cases r with
    | nil =>
      -- the name would come last
      have hnone := hlast a rfl
      rw [ha] at hnone
      cases hnone
    | cons b r =>
      have hlast' : ∀ c ∈ (b :: r).getLast?, key? c = none := fun c hc =>
        hlast c (List.mem_getLast?_cons hc)
      have hhead : ∀ c ∈ (b :: r ++ ys).head?, ¬ isValue c = true := hr
      rw [List.cons_append, bindings_bare ha hr, bindings_bare ha hhead, ih hlast',
        List.cons_append]

variable {xs ys : List Text} {p k v : Text}

theorem bindings_append_valued (hlast : ∀ a ∈ xs.getLast?, key? a = none) (hp : p ∈ beginnings)
    (hv : isValue v = true) : bindings (xs ++ [p ++ k, v] ++ ys)
      = ((bindings xs).1 ++ (bindings ys).1, (bindings xs).2 ++ (k, v) :: (bindings ys).2) := by
  have hmiddle : [p ++ k, v] ++ ys = (p ++ k) :: v :: ys := rfl
  rw [List.append_assoc, hmiddle, bindings_append hlast, bindings_valued (key?_append hp k) hv]

/-! ## Parameters with a value -/

/-- The dictionary of a list with one more entry in it. -/
theorem get?_ofList_append_cons (es fs : List (Text × Text)) (x : Text) :
    (Dict.ofList (es ++ (k, v) :: fs)).get? x
      = ((Dict.ofList fs).get? x).or (if x = k then some v else (Dict.ofList es).get? x) := by
  have hone : (Dict.ofList [(k, v)]).get? x = if x = k then some v else none :=
    Dict.get?_insert Dict.empty k x v
  have hcons : (k, v) :: fs = [(k, v)] ++ fs := rfl
  rw [hcons, Dict.get?_ofList_append, Dict.get?_ofList_append, hone, Option.or_assoc]
  split <;> rfl

/-- An extra parameter with its value may stand anywhere but behind the name of another one: the
other arguments and the other parameters are what they are without it, and of several values for
one key the last one stays. What is left of any arguments holds no extra parameter, stands in the
old order, and loses nothing more. -/
theorem split_valued :
    (∀ (xs ys : List Text) (p k v : Text), (∀ a ∈ xs.getLast?, ∀ q ∈ beginnings, ¬ q <+: a) →
      p ∈ beginnings → (v.head? ≠ some '-' ∨ (Numeral.readInt64? v).isSome = true) →
      (split (xs ++ [p ++ k, v] ++ ys)).1 = (split xs).1 ++ (split ys).1
      ∧ ∀ x, (split (xs ++ [p ++ k, v] ++ ys)).2.get? x
        = ((split ys).2.get? x).or (if x = k then some v else (split xs).2.get? x))
    ∧ ∀ args, (∀ a ∈ (split args).1, ∀ q ∈ beginnings, ¬ q <+: a)
      ∧ (split args).1.Sublist args ∧ split (split args).1 = ((split args).1, Dict.empty) := by
  constructor
  · intro xs ys p k v hlast hp hv
    have hbindings : bindings (xs ++ [p ++ k, v] ++ ys)
        = ((bindings xs).1 ++ (bindings ys).1, (bindings xs).2 ++ (k, v) :: (bindings ys).2) :=
      bindings_append_valued (fun a ha => key?_eq_none_iff.2 (hlast a ha)) hp (isValue_iff.2 hv)
    rw [split_eq, split_eq, split_eq, hbindings]
    exact ⟨rfl, get?_ofList_append_cons _ _⟩
  · intro args
    refine ⟨fun a ha => key?_eq_none_iff.1 (key?_of_mem_bindings ha), bindings_sublist args, ?_⟩
    have hagain : bindings (bindings args).1 = ((bindings args).1, []) :=
      bindings_of_key?_eq_none fun a => key?_of_mem_bindings
    rw [split_eq, split_eq, hagain]
    rfl

/-- A negative number is a value. The one of the later parameter stays, which is the one behind. -/
theorem split_valued_negative :
    let xs := ["ctable".toList, "--extra-utc-offset".toList, "60".toList, "form".toList]
    let args := xs ++ ["--extras-".toList ++ "utc-offset".toList, "-300".toList]
      ++ ["--verbose".toList]
    (split args).1 = ["ctable".toList, "form".toList, "--verbose".toList]
    ∧ (split args).2.get? "utc-offset".toList = some "-300".toList := by
  intro xs args
  obtain ⟨hrest, hget⟩ := split_valued.1 xs ["--verbose".toList] "--extras-".toList
    "utc-offset".toList "-300".toList (by decide) (by decide) (.inr (by decide))
  refine ⟨hrest.trans (by decide), (hget _).trans (by decide)⟩

/-! ## Parameters without a value -/

/-- Among arguments without extra parameters a name with a value behind it takes the value away. -/
theorem split_append_valued (hxs : ∀ a ∈ xs, key? a = none) (hys : ∀ a ∈ ys, key? a = none)
    (hp : p ∈ beginnings) (hv : isValue v = true) :
    split (xs ++ [p ++ k, v] ++ ys) = (xs ++ ys, Dict.empty.insert k v) := by
  rw [split_eq, bindings_append_valued (fun a ha => hxs a (List.mem_of_mem_getLast? ha)) hp hv,
    bindings_of_key?_eq_none hxs, bindings_of_key?_eq_none hys]
  rfl

/-- A name without a value behind it takes nothing away. -/
theorem split_append_bare (hxs : ∀ a ∈ xs, key? a = none) (hys : ∀ a ∈ ys, key? a = none)
    (hp : p ∈ beginnings) (hbare : ∀ b ∈ ys.head?, ¬ isValue b = true) :
    split (xs ++ (p ++ k) :: ys) = (xs ++ ys, Dict.empty.insert k bare) := by
  rw [split_eq, bindings_append fun a ha => hxs a (List.mem_of_mem_getLast? ha),
    bindings_bare (key?_append hp k) hbare, bindings_of_key?_eq_none hxs,
    bindings_of_key?_eq_none hys]
  rfl

section Placed

variable {args : List Text} {i : Nat}

/-- At a place of the arguments, in front of a value. -/
theorem split_placed_valued (hargs : ∀ a ∈ args, key? a = none) (hp : p ∈ beginnings)
    (hi : args[i]? = some v) (hv : isValue v = true) :
    split (args.take i ++ (p ++ k) :: args.drop i)
      = (args.eraseIdx i, Dict.empty.insert k v) := by
  obtain ⟨hlt, hget⟩ := List.getElem?_eq_some_iff.1 hi
  have hplaced : args.take i ++ (p ++ k) :: args.drop i
      = args.take i ++ [p ++ k, v] ++ args.drop (i + 1) := by
    rw [List.drop_eq_getElem_cons hlt, hget, List.append_assoc]
    rfl
  rw [hplaced, List.eraseIdx_eq_take_drop_succ]
  exact split_append_valued (fun a ha => hargs a (List.mem_of_mem_take ha))
    (fun a ha => hargs a (List.mem_of_mem_drop ha)) hp hv

/-- At a place of the arguments, in front of no value. -/
theorem split_placed_bare (hargs : ∀ a ∈ args, key? a = none) (hp : p ∈ beginnings)
    (h : ∀ b, args[i]? = some b → ¬ isValue b = true) :
    split (args.take i ++ (p ++ k) :: args.drop i) = (args, Dict.empty.insert k bare) := by
  have hhead : ∀ b ∈ (args.drop i).head?, ¬ isValue b = true := by
    rw [List.head?_drop]
    exact h
  have hbefore : ∀ a ∈ args.take i, key? a = none := fun a ha => hargs a (List.mem_of_mem_take ha)
  have hbehind : ∀ a ∈ args.drop i, key? a = none := fun a ha => hargs a (List.mem_of_mem_drop ha)
  rw [split_append_bare hbefore hbehind hp hhead, List.take_append_drop]

end Placed

/-- The name of the extra parameter that turns the preview on. -/
def previewFlag : Text := "--extra-preview".toList

/-- The switch of the preview turns it on and changes nothing else just if it comes last or the
argument behind it begins with a hyphen and is no number. Any other argument behind it is taken for
its value. -/
theorem split_preview_iff {args : List Text} (hargs : ∀ a ∈ args, ∀ q ∈ beginnings, ¬ q <+: a)
    (i : Nat) :
    let placed := args.take i ++ previewFlag :: args.drop i
    (split placed = (args, Dict.empty.insert "preview".toList "true".toList)
      ↔ ∀ b, args[i]? = some b → b.head? = some '-' ∧ Numeral.readInt64? b = none)
    ∧ ∀ b, args[i]? = some b → (b.head? ≠ some '-' ∨ (Numeral.readInt64? b).isSome = true) →
      split placed = (args.eraseIdx i, Dict.empty.insert "preview".toList b) := by
  intro placed
  have hkeys : ∀ a ∈ args, key? a = none := fun a ha => key?_eq_none_iff.2 (hargs a ha)
  have hp : "--extra-".toList ∈ beginnings := by decide
  have hplaced : placed = args.take i ++ ("--extra-".toList ++ "preview".toList) :: args.drop i :=
    rfl
  have hvalued : ∀ b, args[i]? = some b → isValue b = true →
      split placed = (args.eraseIdx i, Dict.empty.insert "preview".toList b) := by
    intro b hi hb
    rw [hplaced, split_placed_valued hkeys hp hi hb]
  refine ⟨⟨fun hsplit b hi => ?_, fun hbare => ?_⟩, fun b hi hb => hvalued b hi (isValue_iff.2 hb)⟩
  · have hb : ¬ isValue b = true := by
      intro hb
      -- an argument would be missing
      have hlength := congrArg (fun s => s.1.length) (hsplit.symm.trans (hvalued b hi hb))
      have hlt := (List.getElem?_eq_some_iff.1 hi).1
      simp only [List.length_eraseIdx_of_lt hlt] at hlength
      omega
    simpa [isValue_iff] using hb
  · rw [hplaced]
    refine split_placed_bare hkeys hp fun b hi => ?_
    obtain ⟨hhyphen, hnumber⟩ := hbare b hi
    simp [isValue_iff, hhyphen, hnumber]

/-- In front of an option the switch stands by itself. -/
theorem split_preview_option :
    let args := ["ctable".toList, "form".toList, "--verbose".toList]
    (∀ a ∈ args, ∀ q ∈ beginnings, ¬ q <+: a)
    ∧ split ["ctable".toList, "form".toList, previewFlag, "--verbose".toList]
      = (args, Dict.empty.insert "preview".toList "true".toList) := by
  intro args
  have hargs : ∀ a ∈ args, ∀ q ∈ beginnings, ¬ q <+: a := by decide
  refine ⟨hargs, (split_preview_iff hargs 2).1.2 fun b hb => ?_⟩
  obtain rfl : "--verbose".toList = b := Option.some.inj hb
  exact ⟨rfl, by decide⟩

/-- In front of a file the switch takes the name of the file for its value. -/
theorem preview_takes_file :
    let args := ["ctable".toList, "resolve-date".toList, "table.json".toList, "15".toList]
    let placed := args.take 2 ++ previewFlag :: args.drop 2
    (∀ a ∈ args, ∀ q ∈ beginnings, ¬ q <+: a)
    ∧ split placed = (["ctable".toList, "resolve-date".toList, "15".toList],
      Dict.empty.insert "preview".toList "table.json".toList)
    ∧ split placed ≠ (args, Dict.empty.insert "preview".toList "true".toList) := by
  decide

end ProgressTable.Extra
