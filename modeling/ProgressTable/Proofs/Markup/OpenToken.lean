import Mathlib.Tactic
import ProgressTable.Proofs.Markup.OnePass

/-!
# Tokens behind an opening that is left open

An opening takes the next closing brace on its line that leaves it a character, whatever stands
between the two. So an opening that was never closed, or that was closed with nothing in it, takes
the closing brace of the next token as its own: `{completion:}{completion:4}` is a single token, and
it asks for an activity with the identifier `}{completion:4`.

A token whose identifier holds no brace is found in its place, asked for and replaced, just if no
opening is left open before it (`LeftOpen`). Otherwise it becomes part of another identifier
(`calls_substituteLines_token`).
-/

namespace ProgressTable

open Text

namespace Token

/-- An identifier without braces, on one line. -/
structure IsPlainIdentifier (id : ActivityId) : Prop where
  ne_nil : id ≠ []
  opening_not_mem : '{' ∉ id
  closing_not_mem : '}' ∉ id
  newline_not_mem : '\n' ∉ id

namespace IsPlainIdentifier

variable {id : ActivityId}

theorem isIdentifier (hid : IsPlainIdentifier id) : IsIdentifier id :=
  ⟨hid.ne_nil, hid.newline_not_mem, fun h => hid.closing_not_mem (List.mem_of_mem_tail h)⟩

end IsPlainIdentifier

/-- Behind the last token of a text, on its last line, an opening is left open. -/
def LeftOpen (t : Text) : Prop := ∃ w, opening ++ w <:+ pattern.behind t ∧ '\n' ∉ w

/-! ## Where an opening and a token meet -/

/-- An opening does not overlap with another. -/
theorem exists_of_append_opening {s r u : Text} (hne : s ≠ [])
    (h : s ++ (opening ++ r) = opening ++ u) : ∃ w, s = opening ++ w ∧ u = w ++ (opening ++ r) := by
  rcases List.append_eq_append_iff.1 h with ⟨k, hk, hu⟩ | ⟨w, hs, hu⟩
  · cases k with
    | nil => exact ⟨[], by rw [List.append_nil, hk, List.append_nil], hu.symm⟩
    | cons c k =>
      obtain ⟨rfl, -⟩ := List.cons.inj hu
      have hmem : '{' ∈ opening.tail := by
        rw [hk, List.tail_append_of_ne_nil hne]
        exact List.mem_append_right _ List.mem_cons_self
      exact absurd hmem (by decide)
  · exact ⟨w, hs, hu⟩

/-- A token behind `s` lets one begin in `s` just if `s` is an opening on the same line. -/
theorem begins_append_token {s rest : Text} {id : ActivityId} (hne : s ≠ []) (hid : '\n' ∉ id) :
    Begins (s ++ (opening ++ id ++ '}' :: rest))
      ↔ Begins s ∨ ∃ w, s = opening ++ w ∧ '\n' ∉ w := by
  constructor
  · rintro ⟨body, rest', he, hbody, hnewline⟩
    rw [List.append_assoc, List.append_assoc] at he
    obtain ⟨w, rfl, hw⟩ := exists_of_append_opening hne he
    rcases List.append_eq_append_iff.1 hw with ⟨k, rfl, hk⟩ | ⟨k, rfl, -⟩
    · -- the brace stands in `w`, so the token is closed there
      cases k with
      | nil => cases hk
      | cons c k =>
        obtain ⟨rfl, -⟩ := List.cons.inj hk
        exact .inl ⟨body, k, (List.append_assoc _ _ _).symm, hbody, hnewline⟩
    · exact .inr ⟨w, rfl, fun hm => hnewline (List.mem_append_left _ hm)⟩
  · rintro (⟨body, rest', rfl, hbody, hnewline⟩ | ⟨w, rfl, hw⟩)
    · exact ⟨body, rest' ++ (opening ++ id ++ '}' :: rest), by simp, hbody, hnewline⟩
    · refine ⟨w ++ (opening ++ id), rest, by simp, ?_, ?_⟩
      · exact List.append_ne_nil_of_right_ne_nil _ (List.append_ne_nil_of_left_ne_nil (by decide) _)
      · have hopening : '\n' ∉ opening := by decide
        simp [hw, hid, hopening]

/-- An opening that is left open takes the brace of the next token. -/
theorem match?_leftOpen {w post : Text} {id : ActivityId} (hw : '\n' ∉ w)
    (hclosed : ¬ Begins (opening ++ w)) (hid : IsPlainIdentifier id) :
    pattern.match? (opening ++ w ++ (opening ++ id ++ '}' :: post))
      = some (w ++ (opening ++ id), post) := by
  have hopening : '\n' ∉ opening ∧ '}' ∉ opening := by decide
  have hne : opening ++ id ≠ [] := List.append_ne_nil_of_left_ne_nil (by decide) _
  refine match?_eq_some_iff.2 ⟨⟨List.append_ne_nil_of_right_ne_nil _ hne, ?_, ?_⟩, by simp⟩
  · simp [hw, hopening, hid.newline_not_mem]
  · intro hm
    have htail : '}' ∈ w.tail := by
      cases w with
      | nil =>
        exact absurd (List.mem_of_mem_tail hm) (by simp [hopening, hid.closing_not_mem])
      | cons c w => simpa [hopening, hid.closing_not_mem] using hm
    obtain ⟨c, w, rfl⟩ := List.exists_cons_of_ne_nil (l := w) (by rintro rfl; cases htail)
    obtain ⟨body, rest, rfl⟩ := List.append_of_mem htail
    refine hclosed ⟨c :: body, rest, by simp, List.cons_ne_nil _ _, ?_⟩
    exact fun hn => hw (List.mem_append_left ('}' :: rest) hn)

/-! ## A token in a text -/

section

variable {pre post : Text} {id : ActivityId}

/-- Before a token no other begins just if no opening is left open. -/
theorem noneIn_token_iff (hnone : pattern.NoneIn pre []) (hid : IsPlainIdentifier id) :
    pattern.NoneIn pre (opening ++ id ++ '}' :: post) ↔ ¬ LeftOpen pre := by
  have hclosed (s : Text) (hne : s ≠ []) (hs : s <:+ pre) : ¬ Begins s := by
    have h := noneIn_iff.1 hnone s hne hs
    rwa [List.append_nil] at h
  rw [noneIn_iff, LeftOpen, Pattern.behind_of_noneIn hnone]
  constructor
  · rintro h ⟨w, hsuffix, hw⟩
    have hne : opening ++ w ≠ [] := List.append_ne_nil_of_left_ne_nil (by decide) _
    exact h _ hne hsuffix ((begins_append_token hne hid.newline_not_mem).2 (.inr ⟨w, rfl, hw⟩))
  · intro h s hne hs hbegins
    rcases (begins_append_token hne hid.newline_not_mem).1 hbegins with hbegins | ⟨w, rfl, hw⟩
    · exact hclosed s hne hs hbegins
    · exact h ⟨w, hs, hw⟩

/-- Going on behind a token changes nothing before it. -/
theorem noneIn_append (hnone : pattern.NoneIn pre (opening ++ id ++ '}' :: post))
    (hid : IsIdentifier id) (t : Text) :
    pattern.NoneIn pre (opening ++ id ++ '}' :: (post ++ t)) := by
  rw [noneIn_iff] at hnone ⊢
  intro s hne hs
  rw [begins_append_token hne hid.2.1]
  exact fun h => hnone s hne hs ((begins_append_token hne hid.2.1).2 h)

theorem leftOpen_of_first {before s rest : Text} {a : ActivityId}
    (hnone : pattern.NoneIn before s) (hmatch : pattern.match? s = some (a, rest)) :
    LeftOpen (before ++ s) ↔ LeftOpen rest := by
  rw [LeftOpen, Pattern.behind_of_first hnone hmatch, LeftOpen]

/-- The identifiers around a token: its own if no opening is left open before it, and otherwise one
that it is only a part of. -/
theorem identifiers_token (pre : Text) (post : Text) (hid : IsPlainIdentifier id) :
    (¬ LeftOpen pre → pattern.pieces (pre ++ (opening ++ id ++ '}' :: post))
      = pattern.pieces pre ++ .found id :: pattern.pieces post)
    ∧ (LeftOpen pre → ∃ w, identifiers (pre ++ (opening ++ id ++ '}' :: post))
      = identifiers pre ++ (w ++ (opening ++ id)) :: identifiers post) := by
  induction pre using pattern.matches_induction with
  | last pre hnone =>
    have htoken : pattern.match? (opening ++ id ++ '}' :: post) = some (id, post) :=
      match?_eq_some_iff.2 ⟨hid.isIdentifier, rfl⟩
    rw [identifiers, identifiers, Pattern.found_of_noneIn hnone, Pattern.pieces_of_noneIn hnone]
    refine ⟨fun h => Pattern.pieces_of_first ((noneIn_token_iff hnone hid).2 h) htoken,
      fun hopen => ?_⟩
    -- the leftmost opening that is left open takes the token
    rcases pattern.noneIn_or_exists_first pre (opening ++ id ++ '}' :: post) with
      hnone' | ⟨earlier, s, a, more, rfl, hne, hearlier, hmatch⟩
    · exact absurd hopen ((noneIn_token_iff hnone hid).1 hnone')
    · have hs : ¬ Begins s := by
        have h := noneIn_iff.1 hnone s hne (List.suffix_append earlier s)
        rwa [List.append_nil] at h
      have hbegins := begins_iff.2 ⟨a, more, hmatch⟩
      obtain ⟨w, rfl, hw⟩ :=
        ((begins_append_token hne hid.newline_not_mem).1 hbegins).resolve_left hs
      refine ⟨w, ?_⟩
      rw [List.append_assoc, Pattern.found_of_first hearlier (match?_leftOpen hw hs hid)]
      rfl
  | first before s a rest hnone hmatch ih =>
    obtain ⟨ha, rfl⟩ := match?_eq_some_iff.1 hmatch
    have hnone' := noneIn_append hnone ha (opening ++ id ++ '}' :: post)
    have hmatch' : pattern.match?
        (opening ++ a ++ '}' :: (rest ++ (opening ++ id ++ '}' :: post)))
        = some (a, rest ++ (opening ++ id ++ '}' :: post)) := match?_eq_some_iff.2 ⟨ha, rfl⟩
    have hassoc : before ++ (opening ++ a ++ '}' :: rest) ++ (opening ++ id ++ '}' :: post)
        = before ++ (opening ++ a ++ '}' :: (rest ++ (opening ++ id ++ '}' :: post))) := by
      simp only [List.append_assoc, List.cons_append]
    rw [leftOpen_of_first hnone hmatch, hassoc, identifiers, identifiers,
      Pattern.found_of_first hnone hmatch, Pattern.found_of_first hnone' hmatch',
      Pattern.pieces_of_first hnone hmatch, Pattern.pieces_of_first hnone' hmatch']
    refine ⟨fun h => ?_, fun h => ?_⟩
    · rw [ih.1 h]
      simp only [List.append_assoc, List.cons_append]
    · obtain ⟨w, hw⟩ := ih.2 h
      exact ⟨w, congrArg (a :: ·) hw⟩

/-- A text around a token that is in its place is asked and replaced part by part. -/
theorem substitute_token (ctx : RenderContext) (dates : DateLabels) {pre post : Text}
    (hid : IsPlainIdentifier id) (hopen : ¬ LeftOpen pre) :
    let t := pre ++ (opening ++ id ++ '}' :: post)
    (substitute ctx dates t).calls
        = (substitute ctx dates pre).calls ++ questions ctx id ++ (substitute ctx dates post).calls
    ∧ (substitute ctx dates t).value.1
        = (substitute ctx dates pre).value.1 ++ shownText ctx dates id
          ++ (substitute ctx dates post).value.1 := by
  intro t
  have hpieces : pattern.pieces t = pattern.pieces pre ++ .found id :: pattern.pieces post :=
    (identifiers_token pre post hid).1 hopen
  constructor
  · rw [calls_substitute, identifiers, Pattern.found, hpieces, List.filterMap_append,
      List.filterMap_cons, List.flatMap_append, List.flatMap_cons, calls_substitute,
      calls_substitute, List.append_assoc]
    rfl
  · rw [value_substitute, hpieces, List.flatMap_append, List.flatMap_cons, replacement_found,
      text_resolve, value_substitute, value_substitute, List.append_assoc]

/-- A text around a token behind an opening that is left open asks for another activity. -/
theorem calls_substitute_leftOpen (ctx : RenderContext) (dates : DateLabels) {pre post : Text}
    (hid : IsPlainIdentifier id) (hopen : LeftOpen pre) :
    ∃ w, (substitute ctx dates (pre ++ (opening ++ id ++ '}' :: post))).calls
      = (substitute ctx dates pre).calls ++ questions ctx (w ++ (opening ++ id))
        ++ (substitute ctx dates post).calls := by
  obtain ⟨w, hw⟩ := (identifiers_token pre post hid).2 hopen
  refine ⟨w, ?_⟩
  rw [calls_substitute, hw, List.flatMap_append, List.flatMap_cons, calls_substitute,
    calls_substitute, List.append_assoc]

end

/-! ## A token in a table -/

variable {ctx : RenderContext} {dates : DateLabels}

theorem calls_substituteLines (ls : List Line) :
    (substituteLines ctx dates ls).calls
      = (ls.flatMap Line.texts).flatMap fun t => (substitute ctx dates t).calls := by
  rw [substituteLines, Journaled.calls_mapM, List.flatMap_assoc]
  exact List.flatMap_congr fun l _ => calls_substituteLine ctx dates l

theorem texts_substituteLines (ls : List Line) :
    (substituteLines ctx dates ls).value.flatMap Line.texts
      = (ls.flatMap Line.texts).map fun t => (substitute ctx dates t).value.1 := by
  rw [substituteLines, Journaled.value_mapM, List.flatMap_map, List.map_flatMap]
  exact List.flatMap_congr fun l _ => texts_substituteLine ctx dates l

/-- Identifiers are asked for apart from each other. -/
theorem questions_inj {id id' : ActivityId} (h : questions ctx id = questions ctx id') :
    id = id' := by
  rw [questions, questions] at h
  exact Call.activity.inj (List.cons.inj h).1

/-- A token with an identifier without braces, somewhere in a text of a line: its activity, and
nothing else, is asked for in its place just if no opening is left open before it, and then it is
replaced in its place. Otherwise it ends the identifier of another token. -/
theorem calls_substituteLines_token (ctx : RenderContext) (dates : DateLabels) {ls : List Line}
    {earlier later : List Text} {pre post : Text} {id : ActivityId} (hid : IsPlainIdentifier id)
    (hls : ls.flatMap Line.texts
      = earlier ++ (pre ++ (opening ++ id ++ '}' :: post)) :: later) :
    let asked (ts : List Text) := ts.flatMap fun t => (substitute ctx dates t).calls
    let shown (t : Text) := (substitute ctx dates t).value.1
    ((substituteLines ctx dates ls).calls
        = asked (earlier ++ [pre]) ++ questions ctx id ++ asked (post :: later)
      ↔ ¬ LeftOpen pre)
    ∧ (¬ LeftOpen pre → (substituteLines ctx dates ls).value.flatMap Line.texts
        = earlier.map shown ++ (shown pre ++ shownText ctx dates id ++ shown post)
          :: later.map shown)
    ∧ (LeftOpen pre → ∃ w, (substituteLines ctx dates ls).calls
        = asked (earlier ++ [pre]) ++ questions ctx (w ++ (opening ++ id))
          ++ asked (post :: later)) := by
  intro asked shown
  have hcalls (qs : List Call)
      (h : (substitute ctx dates (pre ++ (opening ++ id ++ '}' :: post))).calls
        = (substitute ctx dates pre).calls ++ qs ++ (substitute ctx dates post).calls) :
      (substituteLines ctx dates ls).calls
        = asked (earlier ++ [pre]) ++ qs ++ asked (post :: later) := by
    rw [calls_substituteLines, hls, List.flatMap_append, List.flatMap_cons, h]
    simp [asked]
  have hleft (hopen : LeftOpen pre) : ∃ w, (substituteLines ctx dates ls).calls
      = asked (earlier ++ [pre]) ++ questions ctx (w ++ (opening ++ id))
        ++ asked (post :: later) := by
    obtain ⟨w, hw⟩ := calls_substitute_leftOpen ctx dates hid hopen
    exact ⟨w, hcalls _ hw⟩
  refine ⟨⟨fun h hopen => ?_, fun hopen => hcalls _ (substitute_token ctx dates hid hopen).1⟩,
    fun hopen => ?_, hleft⟩
  · -- an identifier that the token is only a part of is longer than that of the token
    obtain ⟨w, hw⟩ := hleft hopen
    rw [hw] at h
    have he := questions_inj (List.append_cancel_left (List.append_cancel_right h))
    have hlength := congrArg List.length he
    have hopening : opening.length = 12 := by decide
    simp only [List.length_append, hopening] at hlength
    omega
  · rw [texts_substituteLines, hls, List.map_append, List.map_cons,
      (substitute_token ctx dates hid hopen).2]

/-- A closing brace, an unfinished word and another token do no harm to the token behind them. -/
theorem calls_substituteLines_token_nine_four :
    let store := (Store.empty.addActivity ['4']).addCompletion ['4'] 7 50
    let ctx : RenderContext := ⟨7, 1, false, store.backend⟩
    let dates : DateLabels := ⟨[], "Done".toList, fun _ => []⟩
    let pre := "\x7d \x7bcompletion \x7bcompletion:9\x7d ".toList
    let ls : List Line :=
      [.plain ['a'], .groupRow [.groupCell (pre ++ "\x7bcompletion:4\x7d b".toList)]]
    ¬ LeftOpen pre
    ∧ (substituteLines ctx dates ls).calls
        = [.activity ['9'], .activity ['4'], .completion ['4'] 7] := by
  intro store ctx dates pre ls
  have hid : IsPlainIdentifier ['4'] :=
    ⟨by decide, by decide, by decide, by decide⟩
  have hls : ls.flatMap Line.texts
      = [['a']] ++ (pre ++ (opening ++ ['4'] ++ '}' :: " b".toList)) :: [] := by decide +kernel
  exact ⟨(calls_substituteLines_token ctx dates hid hls).1.1 (by decide +kernel),
    by decide +kernel⟩

/-- An empty token takes the token behind it: the activity that the user completed is not asked for,
and the marker of an unknown activity is shown. -/
theorem empty_token_takes_token :
    let store := (Store.empty.addActivity ['4']).addCompletion ['4'] 7 50
    let ctx : RenderContext := ⟨7, 1, false, store.backend⟩
    let dates : DateLabels := ⟨[], "Done".toList, fun _ => []⟩
    let pre := "\x7bcompletion:\x7d".toList
    let token := opening ++ ['4'] ++ ['}']
    (substituteLines ctx dates [.plain token]).calls = [.activity ['4'], .completion ['4'] 7]
    ∧ (substituteLines ctx dates [.plain token]).value = [.plain "Done".toList]
    ∧ (substituteLines ctx dates [.plain (pre ++ token)]).calls
        = [.activity "\x7d\x7bcompletion:4".toList]
    ∧ (substituteLines ctx dates [.plain (pre ++ token)]).value = [.plain invalidActivity] := by
  decide +kernel

end Token
end ProgressTable
