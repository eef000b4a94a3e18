import ProgressTable.Markup.Document
import ProgressTable.Markup.Html
import ProgressTable.Markup.Token

/-!
# Rendering a table

A document is read, its tokens are replaced, and the lines are written. All questions about
sections come before all questions about activities, each in the order of the document.
-/

namespace ProgressTable

/-- Renders the content of a table. -/
def renderTable (ctx : RenderContext) (dates : DateLabels) (content : Text) :
    Journaled Text := do
  let ls ← Document.read ctx.backend ctx.course content
  let shown ← Token.substituteLines ctx dates ls
  pure (Html.table ctx.preview shown)

end ProgressTable
