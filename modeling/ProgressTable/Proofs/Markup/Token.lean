import Mathlib.Tactic
import ProgressTable.Markup.Token
import ProgressTable.Proofs.Markup.Question
import ProgressTable.Proofs.Text.Cut

/-!
# What tokens ask and what they are replaced by

A token is an opening, an identifier and the first closing brace that leaves the identifier a
character (`Token.match?_eq_some_iff`). The questions of a text are those of its tokens, from left
to right (`Token.calls_substitute`).

Replacing the tokens of a text puts labels and the marker of unknown activities between pieces of
the text, and nothing else: a character that is in the result comes from the text, from a label that
was put in (`Token.labels`), or from the marker. A line keeps its kind, and its texts are replaced
one by one (`Line.texts`).

Most texts are not scanned at all. Both statements hold of them because a scan would find no token
(`Token.match?_of_not_occurs`).
-/

namespace ProgressTable

open Text

namespace Token

variable {ctx : RenderContext} {dates : DateLabels}

/-! ## Tokens as they are written -/

/-- An identifier that a token may have: at least one character, all on one line, and no closing
brace behind the first character. -/
def IsIdentifier (id : ActivityId) : Prop := id ≠ [] ∧ '\n' ∉ id ∧ '}' ∉ id.tail

theorem identifier?_eq_some_iff {t rest : Text} {id : ActivityId} :
    identifier? t = some (id, rest) ↔ IsIdentifier id ∧ t = id ++ '}' :: rest := by
  constructor
  · intro h
    match t with
    | [] => cases h
    | c :: r =>
      rw [identifier?] at h
      split at h
      · cases h
      · next hc =>
        split at h
        · next rest' hr =>
          obtain ⟨rfl, rfl⟩ := Prod.mk.inj (Option.some.inj h)
          refine ⟨⟨List.cons_ne_nil _ _, ?_, ?_⟩, ?_⟩
          · intro hm
            rcases List.mem_cons.1 hm with he | hm
            · exact hc he.symm
            · simpa using List.mem_takeWhile_imp hm
          · intro hm
            simpa using List.mem_takeWhile_imp hm
          · rw [List.cons_append, ← hr, List.takeWhile_append_dropWhile]
        · cases h
  · rintro ⟨⟨hne, hnewline, hbrace⟩, rfl⟩
    obtain ⟨c, r, rfl⟩ := List.exists_cons_of_ne_nil hne
    have hr : ∀ x ∈ r, (x ≠ '}' && x ≠ '\n') = true := by
      intro x hx
      have hx1 : x ≠ '}' := fun he => hbrace (he ▸ hx)
      have hx2 : x ≠ '\n' := fun he => hnewline (he ▸ List.mem_cons_of_mem c hx)
      simp [hx1, hx2]
    have hdrop : (r ++ '}' :: rest).dropWhile (fun x => x ≠ '}' && x ≠ '\n') = '}' :: rest := by
      rw [List.dropWhile_append_of_pos hr, List.dropWhile_cons_of_neg (by decide)]
    have htake : (r ++ '}' :: rest).takeWhile (fun x => x ≠ '}' && x ≠ '\n') = r := by
      rw [List.takeWhile_append_of_pos hr, List.takeWhile_cons_of_neg (by decide), List.append_nil]
    rw [List.cons_append, identifier?, if_neg (List.ne_of_not_mem_cons hnewline).symm, hdrop, htake]
    rfl

/-- A token as it is written. -/
def TokenSource (id : ActivityId) (part : Text) : Prop :=
  IsIdentifier id ∧ part = opening ++ id ++ ['}']

theorem match?_eq_some_iff {t rest : Text} {id : ActivityId} :
    pattern.match? t = some (id, rest) ↔ IsIdentifier id ∧ t = opening ++ id ++ '}' :: rest := by
  show (afterOpening? t).bind identifier? = _ ↔ _
  rw [Option.bind_eq_some_iff]
  constructor
  · rintro ⟨body, hbody, hread⟩
    obtain ⟨hid, rfl⟩ := identifier?_eq_some_iff.1 hread
    refine ⟨hid, ?_⟩
    rw [← List.isPrefixOf?_eq_some_iff_append_eq.1 hbody, List.append_assoc]
  · rintro ⟨hid, rfl⟩
    refine ⟨id ++ '}' :: rest, ?_, identifier?_eq_some_iff.2 ⟨hid, rfl⟩⟩
    exact List.isPrefixOf?_eq_some_iff_append_eq.2 (List.append_assoc _ _ _).symm

theorem recognises_pattern : pattern.Recognises TokenSource := by
  intro t id rest
  rw [match?_eq_some_iff]
  constructor
  · rintro ⟨hid, rfl⟩
    exact ⟨_, ⟨hid, rfl⟩, by simp⟩
  · rintro ⟨part, ⟨hid, rfl⟩, rfl⟩
    exact ⟨hid, by simp⟩

/-! ## Tokens and characters -/

theorem not_mem_of_pattern {d : Char} {t id rest : Text} (hd : d ∉ t)
    (h : pattern.match? t = some (id, rest)) : d ∉ rest := by
  obtain ⟨-, rfl⟩ := match?_eq_some_iff.1 h
  exact fun hm => hd (List.mem_append_right _ (List.mem_cons_of_mem _ hm))

theorem occurs_eq_true_iff {word t : Text} : occurs word t = true ↔ word <:+: t := by
  induction t with
  | nil => rw [occurs, List.isEmpty_iff, List.infix_nil]
  | cons c r ih =>
    rw [occurs, Bool.or_eq_true, ih, List.isPrefixOf_iff_prefix, List.infix_cons_iff]

/-- In a text without an opening no token begins anywhere, so a scan would change nothing. -/
theorem match?_of_not_occurs {t s : Text} (h : ¬ occurs opening t = true) (hs : s <:+ t) :
    pattern.match? s = none := by
  cases hm : pattern.match? s with
  | none => rfl
  | some x =>
    obtain ⟨id, rest⟩ := x
    obtain ⟨-, rfl⟩ := match?_eq_some_iff.1 hm
    have hopening : opening <:+: opening ++ id ++ '}' :: rest := ⟨[], id ++ '}' :: rest, by simp⟩
    exact absurd (occurs_eq_true_iff.2 (hopening.trans hs.isInfix)) h

/-- The identifiers of the tokens in a text, from left to right. -/
def identifiers (t : Text) : List ActivityId := pattern.found t

/-! ## Questions about activities -/

theorem calls_askActivity (id : ActivityId) : (askActivity ctx id).calls = [.activity id] := by
  rw [askActivity_eq_asked, Backend.calls_asked]

theorem calls_askCompletion (id : ActivityId) :
    (askCompletion ctx id).calls = [.completion id ctx.user] := by
  rw [askCompletion_eq_asked, Backend.calls_asked]

/-- A failed lookup counts as an answer of no. -/
theorem value_askActivity (id : ActivityId) :
    (askActivity ctx id).value = decide (ctx.backend.activityExists id = .ok true) := by
  rw [askActivity_eq_asked, Backend.value_asked]
  cases ctx.backend.activityExists id with
  | ok answer => cases answer <;> rfl
  | error e => rfl

/-- What is asked for a token: whether its activity exists and, if it does and no preview is shown,
when the user completed it. -/
def questions (ctx : RenderContext) (id : ActivityId) : List Call :=
  .activity id ::
    if ctx.backend.activityExists id = .ok true ∧ ctx.preview = false
    then [.completion id ctx.user] else []

theorem calls_resolve (id : ActivityId) : (resolve ctx dates id).calls = questions ctx id := by
  rw [resolve, Journaled.calls_bind, calls_askActivity, value_askActivity, questions]
  by_cases hexists : ctx.backend.activityExists id = .ok true
  · rw [decide_eq_true hexists, if_pos rfl]
    cases hpreview : ctx.preview with
    | true => simp
    | false =>
      rw [if_neg Bool.false_ne_true, Journaled.calls_bind, calls_askCompletion,
        if_pos ⟨hexists, rfl⟩]
      cases (askCompletion ctx id).value with
      | none => rfl
      | some record => rfl
  · rw [decide_eq_false hexists, if_neg Bool.false_ne_true, if_neg fun h => hexists h.1]
    rfl

/-- The questions of a text are those of its tokens, whether or not the text is scanned. -/
theorem calls_substitute (t : Text) :
    (substitute ctx dates t).calls = (identifiers t).flatMap (questions ctx) := by
  rw [substitute, identifiers]
  split
  · rw [Journaled.calls_bind, Journaled.calls_mapM, Journaled.calls_pure, List.append_nil,
      Pattern.flatMap_pieces fun s => rfl]
    apply List.flatMap_congr
    intro id _
    rw [resolvePiece, Journaled.calls_bind, calls_resolve, Journaled.calls_pure, List.append_nil]
  · next hocc =>
    rw [Pattern.found_of_none fun s => match?_of_not_occurs hocc]
    rfl

/-- The question of a token, other than those about sections. -/
def IsTokenCall (c : Call) : Prop := ∀ course label, c ≠ .sections course label

theorem isTokenCall_of_mem_questions {id : ActivityId} : ∀ c ∈ questions ctx id, IsTokenCall c := by
  intro c hc course label he
  rw [questions, he] at hc
  split at hc <;> simp at hc

theorem isTokenCall_of_mem_substitute {t : Text} :
    ∀ c ∈ (substitute ctx dates t).calls, IsTokenCall c := by
  intro c hc
  rw [calls_substitute] at hc
  obtain ⟨id, -, hc⟩ := List.mem_flatMap.1 hc
  exact isTokenCall_of_mem_questions c hc

theorem calls_substituteFragment (f : Fragment) :
    (substituteFragment ctx dates f).calls = (substitute ctx dates f.text).calls := by
  simp [substituteFragment]

/-! ## What a token says -/

/-- The label of the user's completion of an activity. A failed lookup counts as no completion. -/
def userLabel (ctx : RenderContext) (dates : DateLabels) (id : ActivityId) : Text :=
  match ctx.backend.completion id ctx.user with
  | .ok (some record) => dates.label (some record.completedAt)
  | _ => notCompletedLabel

/-- The label of an activity that exists: the user's, and in a preview that of everybody. -/
def shownLabel (ctx : RenderContext) (dates : DateLabels) (id : ActivityId) : Text :=
  if ctx.preview then notCompletedLabel else userLabel ctx dates id

/-- The text that a token shows. A failed lookup counts as an activity that does not exist. -/
def shownText (ctx : RenderContext) (dates : DateLabels) (id : ActivityId) : Text :=
  if ctx.backend.activityExists id = .ok true then shownLabel ctx dates id else invalidActivity

theorem value_resolve (id : ActivityId) :
    (resolve ctx dates id).value
      = if ctx.backend.activityExists id = .ok true then .label (shownLabel ctx dates id)
        else .unknownActivity := by
  rw [resolve, Journaled.value_bind, value_askActivity, shownLabel]
  by_cases hexists : ctx.backend.activityExists id = .ok true
  · rw [decide_eq_true hexists, if_pos rfl, if_pos hexists]
    cases ctx.preview with
    | true => rfl
    | false =>
      rw [if_neg Bool.false_ne_true, if_neg Bool.false_ne_true, Journaled.value_bind,
        askCompletion_eq_asked, Backend.value_asked, userLabel]
      cases ctx.backend.completion id ctx.user with
      | error e => rfl
      | ok answer => cases answer <;> rfl
  · rw [decide_eq_false hexists, if_neg Bool.false_ne_true, if_neg hexists]
    rfl

theorem text_resolve (id : ActivityId) :
    (resolve ctx dates id).value.text = shownText ctx dates id := by
  rw [value_resolve, shownText]
  split <;> rfl

/-! ## The text of the pieces -/

/-- What stands for a piece of a text after its replacement. -/
def replacement (ctx : RenderContext) (dates : DateLabels) (x : Piece ActivityId) : Text :=
  (resolvePiece ctx dates x).value.1

theorem replacement_found (id : ActivityId) :
    replacement ctx dates (.found id) = (resolve ctx dates id).value.text := rfl

/-- The tokens of a text are replaced and the rest stays, whether or not the text is scanned. -/
theorem value_substitute (ctx : RenderContext) (dates : DateLabels) (t : Text) :
    (substitute ctx dates t).value.1 = (pattern.pieces t).flatMap (replacement ctx dates) := by
  rw [substitute]
  split
  · simp only [Journaled.value_bind, Journaled.value_mapM, Journaled.value_pure, List.map_map]
    rfl
  · next hocc => exact (Pattern.flatMap_pieces_of_none (fun s => rfl) t fun s =>
      match?_of_not_occurs hocc).symm

/-! ## The labels that are put in -/

/-- The label that replaces a piece of text, if it is a token of an activity that exists. -/
def pieceLabel? (ctx : RenderContext) (dates : DateLabels) : Piece ActivityId → Option Text
  | .verbatim _ => none
  | .found id => match (resolve ctx dates id).value with
    | .unknownActivity => none
    | .label s => some s

/-- The labels that replace the tokens of a text, from left to right. -/
def labels (ctx : RenderContext) (dates : DateLabels) (t : Text) : List Text :=
  (pattern.pieces t).filterMap (pieceLabel? ctx dates)

/-- The label of each token whose activity exists is among the labels of its text. -/
theorem mem_labels {t : Text} {id : ActivityId} (hid : .found id ∈ pattern.pieces t)
    (hactivity : ctx.backend.activityExists id = .ok true) :
    shownLabel ctx dates id ∈ labels ctx dates t := by
  refine List.mem_filterMap.2 ⟨_, hid, ?_⟩
  rw [pieceLabel?, value_resolve, if_pos hactivity]

/-- A character of a replaced piece is one of its own, of its label, or of the marker. -/
theorem not_mem_replacement {d : Char} {x : Piece ActivityId}
    (hx : Piece.Avoids d (fun _ => True) x) (hmarker : d ∉ invalidActivity)
    (hlabel : ∀ s ∈ pieceLabel? ctx dates x, d ∉ s) : d ∉ replacement ctx dates x := by
  cases x with
  | verbatim s => exact hx
  | found id =>
    rw [replacement_found]
    cases ho : (resolve ctx dates id).value with
    | unknownActivity => exact hmarker
    | label s => exact hlabel s (by simp [pieceLabel?, ho])

theorem not_mem_substitute {d : Char} {t : Text} (ht : d ∉ t) (hmarker : d ∉ invalidActivity)
    (hlabels : ∀ s ∈ labels ctx dates t, d ∉ s) : d ∉ (substitute ctx dates t).value.1 := by
  rw [value_substitute]
  intro hm
  obtain ⟨x, hx, hm⟩ := List.mem_flatMap.1 hm
  have havoid : Piece.Avoids d (fun _ => True) x :=
    Pattern.avoids_of_mem_pieces (fun t id rest hd h => ⟨trivial, not_mem_of_pattern hd h⟩) t ht x
      hx
  have hlabel : ∀ s ∈ pieceLabel? ctx dates x, d ∉ s := fun s hs =>
    hlabels s (List.mem_filterMap.2 ⟨x, hx, hs⟩)
  exact not_mem_replacement havoid hmarker hlabel hm

end Token

/-! ## The texts of a line -/

/-- The texts in which a line may hold tokens. -/
def Line.texts : Line → List Text
  | .headerRow fs | .groupRow fs => fs.map Fragment.text
  | .sectionRow row => row.fragments.map Fragment.text
  | .plain t => [t]

theorem Fragment.text_withText (t : Text) (f : Fragment) : (f.withText t).text = t := by
  cases f <;> rfl

/-- A fragment with its tokens replaced. -/
def Fragment.shown (ctx : RenderContext) (dates : DateLabels) (f : Fragment) : Fragment :=
  f.withText (Token.substitute ctx dates f.text).value.1

/-- Fragments stay in their places, each with its tokens replaced. -/
theorem Token.value_substituteFragments (ctx : RenderContext) (dates : DateLabels)
    (fs : List Fragment) :
    (fs.mapM (Token.substituteFragment ctx dates)).value.map Prod.fst
      = fs.map (Fragment.shown ctx dates) := by
  rw [Journaled.value_mapM, List.map_map]
  rfl

theorem Token.texts_substituteFragments (ctx : RenderContext) (dates : DateLabels)
    (fs : List Fragment) :
    ((fs.mapM (Token.substituteFragment ctx dates)).value.map Prod.fst).map Fragment.text
      = (fs.map Fragment.text).map fun t => (Token.substitute ctx dates t).value.1 := by
  rw [Token.value_substituteFragments, List.map_map, List.map_map]
  apply List.map_congr_left
  intro f _
  exact Fragment.text_withText _ f

theorem Token.value_substituteLine_headerRow (ctx : RenderContext) (dates : DateLabels)
    (fs : List Fragment) :
    (Token.substituteLine ctx dates (.headerRow fs)).value
      = .headerRow (fs.map (Fragment.shown ctx dates)) :=
  congrArg Line.headerRow (Token.value_substituteFragments ctx dates fs)

theorem Token.value_substituteLine_groupRow (ctx : RenderContext) (dates : DateLabels)
    (fs : List Fragment) :
    (Token.substituteLine ctx dates (.groupRow fs)).value
      = .groupRow (fs.map (Fragment.shown ctx dates)) :=
  congrArg Line.groupRow (Token.value_substituteFragments ctx dates fs)

/-- The row of a section keeps its label, its status and, in a preview, its mark. -/
theorem Token.value_substituteLine_sectionRow (ctx : RenderContext) (dates : DateLabels)
    (row : SectionRow) :
    (Token.substituteLine ctx dates (.sectionRow row)).value
      = .sectionRow { row with
          fragments := row.fragments.map (Fragment.shown ctx dates)
          completion := if ctx.preview then row.completion else Token.mergeMarks row.completion
            (row.fragments.map fun f => (Token.substitute ctx dates f.text).value.2) } := by
  simp only [Token.substituteLine, Journaled.value_bind, Journaled.value_pure,
    Journaled.value_mapM, List.map_map]
  rfl

/-- The questions of a line are those of its texts. -/
theorem Token.calls_substituteLine (ctx : RenderContext) (dates : DateLabels) (line : Line) :
    (Token.substituteLine ctx dates line).calls
      = line.texts.flatMap fun t => (Token.substitute ctx dates t).calls := by
  cases line with
  | headerRow fs =>
    simp [Token.substituteLine, Token.calls_substituteFragment, Line.texts, List.flatMap_map]
  | groupRow fs =>
    simp [Token.substituteLine, Token.calls_substituteFragment, Line.texts, List.flatMap_map]
  | sectionRow row =>
    simp [Token.substituteLine, Token.calls_substituteFragment, Line.texts, List.flatMap_map]
  | plain t => simp [Token.substituteLine, Line.texts]

/-- The texts of a line are replaced one by one. -/
theorem Token.texts_substituteLine (ctx : RenderContext) (dates : DateLabels) (line : Line) :
    (Token.substituteLine ctx dates line).value.texts
      = line.texts.map fun t => (Token.substitute ctx dates t).value.1 := by
  cases line with
  | headerRow fs => exact Token.texts_substituteFragments ctx dates fs
  | groupRow fs => exact Token.texts_substituteFragments ctx dates fs
  | sectionRow row => exact Token.texts_substituteFragments ctx dates row.fragments
  | plain t => rfl

end ProgressTable
