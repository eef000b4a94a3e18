import Mathlib.Tactic
import ProgressTable.Proofs.Markup.Locality

/-!
# What a table asks, and in which order

The questions of a table can be read off its lines as they were parsed: `Line.label?` names the
section that a line asks for and `Line.identifiers` lists the tokens in its texts, from left to
right. `calls_renderTable_eq_trace` says that these are all questions, that none is left out or
asked twice, and that only the questions about completions hang on who is asking and on what was
answered. A label that is put in for a token is no part of a parsed line, so it asks nothing.
-/

namespace ProgressTable

open Text

/-- The identifiers of the tokens in a line, fragment by fragment. -/
def Line.identifiers (line : Line) : List ActivityId := line.texts.flatMap Token.identifiers

/-- A question about the completion of an activity. -/
def Call.isCompletion : Call → Bool
  | .completion _ _ => true
  | _ => false

variable (ctx : RenderContext) (dates : DateLabels)

/-! ## The questions of a table -/

/-- The questions of a line are those of its tokens, one after the other. -/
theorem Token.calls_substituteLine_identifiers (line : Line) :
    (Token.substituteLine ctx dates line).calls
      = line.identifiers.flatMap (Token.questions ctx) := by
  rw [Token.calls_substituteLine, Line.identifiers, List.flatMap_assoc]
  exact List.flatMap_congr fun t _ => Token.calls_substitute t

theorem calls_renderTable_questions (content : Text) :
    let ls := (Document.read ctx.backend ctx.course content).value
    (renderTable ctx dates content).calls
      = (ls.filterMap Line.label?).map (.sections ctx.course)
        ++ (ls.flatMap Line.identifiers).flatMap (Token.questions ctx) := by
  intro ls
  have hls : ls = (lines content).map fun l => (lineRead ctx l).value := value_read ctx content
  have hsections : (ls.filterMap Line.label?).map (Call.sections ctx.course)
      = (lines content).flatMap fun l => (lineRead ctx l).calls := by
    rw [hls, List.filterMap_map, List.filterMap_eq_flatMap_toList, List.map_flatMap]
    exact List.flatMap_congr fun l _ => (Document.calls_readLine _).symm
  have hactivities : (ls.flatMap Line.identifiers).flatMap (Token.questions ctx)
      = (lines content).flatMap fun l =>
        (Token.substituteLine ctx dates (lineRead ctx l).value).calls := by
    rw [hls, List.flatMap_map, List.flatMap_assoc]
    exact List.flatMap_congr fun l _ =>
      (Token.calls_substituteLine_identifiers ctx dates (lineRead ctx l).value).symm
  rw [hsections, hactivities]
  exact calls_renderTable ctx dates content

/-! ## What the questions depend on -/

/-- Whom a line is read for settles the status of its section and no part of its texts. -/
theorem Document.outline_readLine (backend backend' : Backend) (course course' : CourseId)
    (line : Text) :
    (Document.readLine backend course line).value.label?
        = (Document.readLine backend' course' line).value.label?
      ∧ (Document.readLine backend course line).value.identifiers
        = (Document.readLine backend' course' line).value.identifiers := by
  unfold Document.readLine
  split
  · exact ⟨rfl, rfl⟩
  · split
    · exact ⟨rfl, rfl⟩
    · split
      · next inner rest hcell =>
        have hfragments : (readSectionRow backend course (trim inner) line).value.fragments
            = (readSectionRow backend' course' (trim inner) line).value.fragments := by
          rw [value_readSectionRow, value_readSectionRow]
        rw [Journaled.value_map, Journaled.value_map]
        constructor
        · rw [Line.label?, Line.label?, firstCell_readSectionRow _ hcell,
            firstCell_readSectionRow _ hcell]
        · rw [Line.identifiers, Line.identifiers, Line.texts, Line.texts, hfragments]
      · exact ⟨rfl, rfl⟩

theorem Document.outline_read (backend backend' : Backend) (course course' : CourseId)
    (content : Text) :
    (Document.read backend course content).value.filterMap Line.label?
        = (Document.read backend' course' content).value.filterMap Line.label?
      ∧ (Document.read backend course content).value.flatMap Line.identifiers
        = (Document.read backend' course' content).value.flatMap Line.identifiers := by
  have houtline (l : Text) :=
    Document.outline_readLine backend backend' course course' (Separator.double l)
  rw [Document.read_eq_mapM, Document.read_eq_mapM, Journaled.value_mapM, Journaled.value_mapM,
    List.filterMap_map, List.filterMap_map, List.flatMap_map, List.flatMap_map]
  exact ⟨List.filterMap_congr fun l _ => (houtline l).1, List.flatMap_congr fun l _ => (houtline l).2⟩

/-- Besides completions a token asks for its activity. -/
theorem Token.filter_questions (id : ActivityId) :
    (Token.questions ctx id).filter (fun c => !c.isCompletion) = [.activity id] := by
  rw [Token.questions]
  split <;> rfl

theorem filter_calls_renderTable_questions (content : Text) :
    let ls := (Document.read ctx.backend ctx.course content).value
    (renderTable ctx dates content).calls.filter (fun c => !c.isCompletion)
      = (ls.filterMap Line.label?).map (.sections ctx.course)
        ++ (ls.flatMap Line.identifiers).map .activity := by
  intro ls
  have hsections : ((ls.filterMap Line.label?).map (Call.sections ctx.course)).filter
      (fun c => !c.isCompletion) = (ls.filterMap Line.label?).map (Call.sections ctx.course) := by
    rw [List.filter_eq_self]
    intro c hc
    obtain ⟨label, -, rfl⟩ := List.mem_map.1 hc
    rfl
  have hactivities : ((ls.flatMap Line.identifiers).flatMap (Token.questions ctx)).filter
      (fun c => !c.isCompletion) = (ls.flatMap Line.identifiers).map Call.activity := by
    rw [List.filter_flatMap, List.map_eq_flatMap]
    exact List.flatMap_congr fun id _ => Token.filter_questions ctx id
  rw [calls_renderTable_questions, List.filter_append, hsections, hactivities]

/-- A table asks for the section of each section row, from top to bottom, by the first cell of the
row; then, line by line and from left to right, whether the activity of each token exists, each time
followed by the question for the user's completion if it does and no preview is shown. The questions
about sections and activities are the same for all users and labels and whatever is answered. -/
theorem calls_renderTable_eq_trace (content : Text) :
    let ls := (Document.read ctx.backend ctx.course content).value
    (renderTable ctx dates content).calls
      = (ls.filterMap Line.label?).map (.sections ctx.course)
        ++ (ls.flatMap Line.identifiers).flatMap (fun id => .activity id ::
          if ctx.backend.activityExists id = .ok true ∧ ctx.preview = false
          then [.completion id ctx.user] else [])
    ∧ ∀ (user : UserId) (preview : Bool) (backend : Backend) (dates' : DateLabels),
      (renderTable ⟨user, ctx.course, preview, backend⟩ dates' content).calls.filter
          (fun c => !c.isCompletion)
        = (renderTable ctx dates content).calls.filter (fun c => !c.isCompletion) := by
  refine ⟨calls_renderTable_questions ctx dates content, ?_⟩
  intro user preview backend dates'
  obtain ⟨hlabels, hidentifiers⟩ :=
    Document.outline_read backend ctx.backend ctx.course ctx.course content
  rw [filter_calls_renderTable_questions, filter_calls_renderTable_questions, hlabels, hidentifiers]

end ProgressTable
