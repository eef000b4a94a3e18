import Mathlib.Tactic
import ProgressTable.Proofs.Markup.RowOutcome

/-!
# Replacing tokens in one pass

Replacing the tokens of a text is one pass from left to right: the leftmost token is taken, what
stands before it stays, the token is replaced, and the pass goes on behind its closing brace. What
was put in is never looked at again, so a label may hold the text of a token.

`OnePass` is this pass as a relation that knows nothing of patterns and pieces. It holds of one
result for each text, and that is the result of the program (`onePass_iff`). The mark of a text is
that of the tokens which the pass replaced (`substitute_onePass`).
-/

namespace ProgressTable

open Text

namespace Token

/-! ## Where tokens begin -/

/-- A token begins at the start of a text: behind the opening there is a closing brace on the same
line, with at least one character before it. -/
def Begins (t : Text) : Prop :=
  ∃ body rest, t = opening ++ body ++ '}' :: rest ∧ body ≠ [] ∧ '\n' ∉ body

/-- No token begins in `before` when `rest` stands behind it. -/
def NoneBegins (before rest : Text) : Prop :=
  ∀ s, s ≠ [] → s <:+ before → ¬ Begins (s ++ rest)

/-- The identifier of a token that begins goes up to the first brace that leaves it a character. -/
theorem begins_iff {t : Text} : Begins t ↔ ∃ id rest, pattern.match? t = some (id, rest) := by
  constructor
  · rintro ⟨body, rest, rfl, hne, hnewline⟩
    obtain ⟨id, more, hid, hbrace, hbody⟩ := exists_closed (d := '}') hne
    have hmem : '\n' ∉ id := by
      intro hm
      have hm' : '\n' ∈ body ++ ['}'] := hbody ▸ List.mem_append_left _ hm
      simp [hnewline] at hm'
    have hsplit : body ++ '}' :: rest = id ++ '}' :: (more ++ rest) := by
      rw [List.append_cons, hbody, List.append_assoc, List.cons_append]
    refine ⟨id, more ++ rest, match?_eq_some_iff.2 ⟨⟨hid, hmem, hbrace⟩, ?_⟩⟩
    rw [List.append_assoc, hsplit, List.append_assoc]
  · rintro ⟨id, rest, hmatch⟩
    obtain ⟨⟨hne, hnewline, -⟩, rfl⟩ := match?_eq_some_iff.1 hmatch
    exact ⟨id, rest, rfl, hne, hnewline⟩

theorem match?_eq_none_iff {t : Text} : pattern.match? t = none ↔ ¬ Begins t := by
  rw [begins_iff, Option.eq_none_iff_forall_ne_some, Prod.forall]
  push Not
  rfl

theorem noneIn_iff {before rest : Text} : pattern.NoneIn before rest ↔ NoneBegins before rest :=
  forall₃_congr fun _ _ _ => match?_eq_none_iff

/-! ## The pass -/

/-- A pass over a text that replaces the tokens with these identifiers, from left to right, and
gives a text. -/
inductive OnePass (ctx : RenderContext) (dates : DateLabels) : Text → List ActivityId → Text → Prop
  | verbatim {t : Text} (hnone : NoneBegins t []) : OnePass ctx dates t [] t
  | token {before id rest out : Text} {ids : List ActivityId}
    (hnone : NoneBegins before (opening ++ id ++ '}' :: rest)) (hid : IsIdentifier id)
    (hrest : OnePass ctx dates rest ids out) :
    OnePass ctx dates (before ++ (opening ++ id ++ '}' :: rest)) (id :: ids)
      (before ++ shownText ctx dates id ++ out)

variable {ctx : RenderContext} {dates : DateLabels}

theorem flatMap_replacement_verbatimUnlessEmpty (t : Text) :
    (Piece.verbatimUnlessEmpty t).flatMap (replacement ctx dates) = t := by
  cases t with
  | nil => rfl
  | cons c t => exact List.append_nil _

/-- Behind the last token a text stays. -/
theorem substitute_of_noneIn (ctx : RenderContext) (dates : DateLabels) {t : Text}
    (hnone : pattern.NoneIn t []) :
    identifiers t = [] ∧ (substitute ctx dates t).value.1 = t := by
  rw [identifiers, Pattern.found_of_noneIn hnone, value_substitute, Pattern.pieces_of_noneIn hnone]
  exact ⟨rfl, flatMap_replacement_verbatimUnlessEmpty t⟩

/-- Up to its first token a text stays, the token is replaced, and the rest is on its own. -/
theorem substitute_of_first (ctx : RenderContext) (dates : DateLabels) {before s rest : Text}
    {id : ActivityId} (hnone : pattern.NoneIn before s)
    (hmatch : pattern.match? s = some (id, rest)) :
    identifiers (before ++ s) = id :: identifiers rest
      ∧ (substitute ctx dates (before ++ s)).value.1
        = before ++ shownText ctx dates id ++ (substitute ctx dates rest).value.1 := by
  refine ⟨Pattern.found_of_first hnone hmatch, ?_⟩
  rw [value_substitute, Pattern.pieces_of_first hnone hmatch, List.flatMap_append,
    flatMap_replacement_verbatimUnlessEmpty, List.flatMap_cons, replacement_found, text_resolve,
    ← value_substitute, List.append_assoc]

/-- The pass over a text replaces its tokens and gives the text with its tokens replaced. -/
theorem onePass_iff {t out : Text} {ids : List ActivityId} :
    OnePass ctx dates t ids out ↔ ids = identifiers t ∧ out = (substitute ctx dates t).value.1 := by
  constructor
  · intro h
    induction h with
    | verbatim hnone =>
      obtain ⟨hids, hout⟩ := substitute_of_noneIn ctx dates (noneIn_iff.2 hnone)
      exact ⟨hids.symm, hout.symm⟩
    | token hnone hid hrest ih =>
      obtain ⟨hids, hout⟩ := substitute_of_first ctx dates (noneIn_iff.2 hnone)
        (match?_eq_some_iff.2 ⟨hid, rfl⟩)
      rw [hids, hout, ← ih.1, ← ih.2]
      exact ⟨rfl, rfl⟩
  · rintro ⟨rfl, rfl⟩
    induction t using pattern.matches_induction with
    | last t hnone =>
      obtain ⟨hids, hout⟩ := substitute_of_noneIn ctx dates hnone
      rw [hids, hout]
      exact .verbatim (noneIn_iff.1 hnone)
    | first before s id rest hnone hmatch ih =>
      obtain ⟨hids, hout⟩ := substitute_of_first ctx dates hnone hmatch
      obtain ⟨hid, rfl⟩ := match?_eq_some_iff.1 hmatch
      rw [hids, hout]
      exact .token (noneIn_iff.1 hnone) hid ih

/-! ## The mark of a text -/

theorem mergeMarks_eq_none {current : Option CompletionMark}
    {marks : List (Option CompletionMark)} :
    mergeMarks current marks = none ↔ current = none ∧ ∀ m, some m ∉ marks := by
  induction marks generalizing current with
  | nil => simp [mergeMarks]
  | cons m marks ih =>
    cases m with
    | none =>
      rw [mergeMarks_cons_none, ih]
      simp
    | some m =>
      rw [mergeMarks_cons_some, ih]
      refine iff_of_false (fun h => Option.some_ne_none _ h.1) fun h => ?_
      exact h.2 m List.mem_cons_self

theorem mark_substitute_eq_none (t : Text) :
    (substitute ctx dates t).value.2 = none
      ↔ ∀ id ∈ identifiers t, ctx.backend.activityExists id ≠ .ok true := by
  rw [mark_substitute, mergeMarks_eq_none]
  simp only [mem_marks_iff, true_and, ← @mark?_resolve_eq_none ctx dates]
  constructor
  · intro h id hid
    exact Option.eq_none_iff_forall_ne_some.2 fun m hm => h m ⟨id, hid, hm⟩
  · rintro h m ⟨id, hid, hm⟩
    rw [h id hid] at hm
    cases hm

/-- The mark that tokens with these identifiers leave. -/
def MarkedBy (ctx : RenderContext) (dates : DateLabels) (ids : List ActivityId) :
    Option CompletionMark → Prop
  | none => ∀ id ∈ ids, ctx.backend.activityExists id ≠ .ok true
  | some .notCompleted => ∃ id ∈ ids,
    ctx.backend.activityExists id = .ok true ∧ trim (shownLabel ctx dates id) = ['-']
  | some .completed => (∃ id ∈ ids, ctx.backend.activityExists id = .ok true)
    ∧ ∀ id ∈ ids, ctx.backend.activityExists id = .ok true → trim (shownLabel ctx dates id) ≠ ['-']

theorem markedBy_substitute (t : Text) (mark : Option CompletionMark) :
    (substitute ctx dates t).value.2 = mark ↔ MarkedBy ctx dates (identifiers t) mark := by
  match mark with
  | none => exact mark_substitute_eq_none t
  | some .notCompleted => exact mark_substitute_eq_notCompleted t
  | some .completed =>
    -- the mark that is neither of the other two
    have hnone := @mark_substitute_eq_none ctx dates t
    have hnot := @mark_substitute_eq_notCompleted ctx dates t
    have hcompleted (m : Option CompletionMark) :
        m = some .completed ↔ m ≠ none ∧ m ≠ some .notCompleted := by
      rcases m with - | (_ | _) <;> simp
    rw [hcompleted, Ne, hnone, Ne, hnot, MarkedBy]
    push Not
    rfl

/-- Replacing the tokens of a text is one pass over it: the pass has one result, which is the text
that comes out, and the tokens that it replaced mark the text. A text without an opening is left
alone, as the pass leaves it. -/
theorem substitute_onePass (ctx : RenderContext) (dates : DateLabels) (t : Text) :
    ∃ ids,
      (∀ ids' out, OnePass ctx dates t ids' out
        ↔ ids' = ids ∧ out = (substitute ctx dates t).value.1)
      ∧ (∀ mark, (substitute ctx dates t).value.2 = mark ↔ MarkedBy ctx dates ids mark)
      ∧ (¬ opening <:+: t →
        substitute ctx dates t = pure (t, none) ∧ OnePass ctx dates t [] t) := by
  refine ⟨identifiers t, fun ids' out => onePass_iff, markedBy_substitute t, fun hopening => ?_⟩
  have hocc : ¬ occurs opening t = true := fun h => hopening (occurs_eq_true_iff.1 h)
  have hsubstitute : substitute ctx dates t = pure (t, none) := if_neg hocc
  refine ⟨hsubstitute, onePass_iff.2 ⟨?_, ?_⟩⟩
  · exact (Pattern.found_of_none fun s => match?_of_not_occurs hocc).symm
  · rw [hsubstitute, Journaled.value_pure]

/-- A label that is a token itself is put in as it is. -/
example :
    let store := (Store.empty.addActivity ['4']).addCompletion ['4'] 7 50
    let dates : DateLabels := ⟨[], "\x7bcompletion:4\x7d".toList, fun _ => []⟩
    let t := "a \x7bcompletion:4\x7d b".toList
    (substitute ⟨7, 1, false, store.backend⟩ dates t).value = (t, some .completed) := by
  decide +kernel

end Token
end ProgressTable
