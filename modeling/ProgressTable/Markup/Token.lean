import ProgressTable.DateRange
import ProgressTable.Lookup.Backend
import ProgressTable.Markup.Line
import ProgressTable.Text.Blank
import ProgressTable.Text.Pattern

/-!
# Completion tokens

`{completion:ID}` stands for how far a user got with an activity. Tokens are replaced inside lines
that are classified already, and what replaces a token is never read again, so a label can hold
any text. Each token asks whether its activity exists; outside a preview it then asks when the user
completed it. A question that fails counts as answered by "no".
-/

namespace ProgressTable

open Text

/-- For whom, where and how a table is rendered. -/
structure RenderContext where
  user : UserId
  course : CourseId
  /-- A preview shows the table without anything about the user. -/
  preview : Bool
  backend : Backend

namespace Token

/-- The part of the program that speaks while tokens are replaced. -/
def logTarget : Text := "completion_table::markup::resolve".toList

/-! ## Finding tokens -/

/-- The text before the identifier of a token. -/
def opening : Text := "\x7bcompletion:".toList

/-- The text behind the opening of a token. -/
def afterOpening? (t : Text) : Option Text := opening.isPrefixOf? t

/-- Reads an identifier of at least one character, up to the first closing brace behind that
character and on the same line. -/
def identifier? : Text → Option (ActivityId × Text)
  | c :: r =>
    if c = '\n' then none
    else match r.dropWhile fun x => x ≠ '}' && x ≠ '\n' with
      | '}' :: rest => some (c :: r.takeWhile fun x => x ≠ '}' && x ≠ '\n', rest)
      | _ => none
  | [] => none

theorem identifier?_shorter (t id rest : Text) (h : identifier? t = some (id, rest)) :
    rest.length < t.length := by
  match t with
  | [] => simp [identifier?] at h
  | c :: r =>
    simp only [identifier?] at h
    split at h
    · simp at h
    · split at h
      · rename_i r' hr
        obtain ⟨-, rfl⟩ := Prod.mk.inj (Option.some.inj h)
        have := (List.dropWhile_sublist (l := r) fun x => x ≠ '}' && x ≠ '\n').length_le
        rw [hr] at this
        simp only [List.length_cons] at this ⊢
        omega
      · simp at h

/-- The pattern of a token, which gives its identifier. -/
def pattern : Pattern ActivityId where
  match? t := (afterOpening? t).bind identifier?
  shorter t id rest h := by
    obtain ⟨body, hb, hi⟩ := Option.bind_eq_some_iff.1 h
    exact Nat.lt_of_lt_of_le (identifier?_shorter _ _ _ hi) (length_le_of_isPrefixOf? hb)

/-! ## Replacing tokens -/

/-- Shown for an activity that does not exist. -/
def invalidActivity : Text := "<div style=\"color: red\"> Invalid ID </div>".toList

/-- Shown for an activity that is not completed, and for every activity in a preview. -/
def notCompletedLabel : Text := ['-']

/-- What a token says: that its activity does not exist, or the label of its completion. -/
inductive Outcome where
  | unknownActivity
  | label (text : Text)
deriving Repr, DecidableEq

namespace Outcome

/-- The text that replaces the token. -/
def text : Outcome → Text
  | unknownActivity => invalidActivity
  | label t => t

/-- The mark that the token sets: none for an unknown activity, and otherwise by the label, which
counts as not completed when it is a dash between blanks. -/
def mark? : Outcome → Option CompletionMark
  | unknownActivity => none
  | label t => some (if trim t = notCompletedLabel then .notCompleted else .completed)

end Outcome

/-- Asks whether the activity exists. A failed lookup is logged and counts as a miss. -/
def askActivity (ctx : RenderContext) (id : ActivityId) : Journaled Bool := do
  match ← ctx.backend.askActivity id with
  | .ok answer => pure answer
  | .error e =>
    Journaled.log .warn logTarget
      ("Activity lookup for ".toList ++ inApostrophes id ++ " failed: ".toList ++ e.describe)
    pure false

/-- Asks when the user completed the activity. A failed lookup is logged and counts as a miss. -/
def askCompletion (ctx : RenderContext) (id : ActivityId) :
    Journaled (Option CompletionRecord) := do
  match ← ctx.backend.askCompletion id ctx.user with
  | .ok answer => pure answer
  | .error e =>
    Journaled.log .warn logTarget
      ("Completion lookup for ".toList ++ inApostrophes id ++ " and user ".toList
        ++ Numeral.ofInt64 ctx.user ++ " failed: ".toList ++ e.describe)
    pure none

/-- What the token with this identifier says. -/
def resolve (ctx : RenderContext) (dates : DateLabels) (id : ActivityId) :
    Journaled Outcome := do
  if ← askActivity ctx id then
    if ctx.preview then
      pure (.label notCompletedLabel)
    else
      match ← askCompletion ctx id with
      | some record => pure (.label (dates.label (some record.completedAt)))
      | none => pure (.label notCompletedLabel)
  else
    pure .unknownActivity

/-- Replaces a piece of text, if it is a token. -/
def resolvePiece (ctx : RenderContext) (dates : DateLabels) :
    Piece ActivityId → Journaled (Text × Option CompletionMark)
  | .verbatim t => pure (t, none)
  | .found id => do
    let outcome ← resolve ctx dates id
    pure (outcome.text, outcome.mark?)

/-- The marks of several tokens together, if there is any, added to the mark so far. -/
def mergeMarks (current : Option CompletionMark) (marks : List (Option CompletionMark)) :
    Option CompletionMark :=
  marks.foldl (fun
    | sofar, none => sofar
    | sofar, some m => some (CompletionMark.merge sofar m)) current

/-- Replaces the tokens in a text from left to right and gives their mark. Most texts hold no
token and are left alone without a scan. -/
def substitute (ctx : RenderContext) (dates : DateLabels) (t : Text) :
    Journaled (Text × Option CompletionMark) :=
  if occurs opening t then do
    let parts ← (pattern.pieces t).mapM (resolvePiece ctx dates)
    pure ((parts.map Prod.fst).flatten, mergeMarks none (parts.map Prod.snd))
  else pure (t, none)

/-! ## Replacing tokens in lines -/

/-- Replaces the tokens in a fragment and gives their mark. -/
def substituteFragment (ctx : RenderContext) (dates : DateLabels) (f : Fragment) :
    Journaled (Fragment × Option CompletionMark) := do
  let (t, mark) ← substitute ctx dates f.text
  pure (f.withText t, mark)

/-- Replaces the tokens in a line. Outside a preview the row of a section also takes the mark of
its tokens, whichever cells they stand in. -/
def substituteLine (ctx : RenderContext) (dates : DateLabels) : Line → Journaled Line
  | .plain t => do
    let (t', _) ← substitute ctx dates t
    pure (.plain t')
  | .headerRow fs => do
    let parts ← fs.mapM (substituteFragment ctx dates)
    pure (.headerRow (parts.map Prod.fst))
  | .groupRow fs => do
    let parts ← fs.mapM (substituteFragment ctx dates)
    pure (.groupRow (parts.map Prod.fst))
  | .sectionRow row => do
    let parts ← row.fragments.mapM (substituteFragment ctx dates)
    let completion :=
      if ctx.preview then row.completion else mergeMarks row.completion (parts.map Prod.snd)
    pure (.sectionRow { row with fragments := parts.map Prod.fst, completion })

/-- Replaces the tokens in all lines, from top to bottom. -/
def substituteLines (ctx : RenderContext) (dates : DateLabels) (ls : List Line) :
    Journaled (List Line) :=
  ls.mapM (substituteLine ctx dates)

end Token
end ProgressTable
