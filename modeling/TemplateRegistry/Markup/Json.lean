import TemplateRegistry.Json.Basic
import TemplateRegistry.Markup.Render
/-!
# Render results as JSON documents

The output of a render, and the names that a text uses, with their members in
declared order.
-/

namespace TemplateRegistry.Markup

/-- The result of a render as a document. -/
def RenderOutput.toJson (output : RenderOutput) : Json :=
  .object [("text", .string output.text),
    ("included", Json.strings output.included),
    ("missing", Json.strings output.missing),
    ("cycles", .array (output.cycles.map Json.strings)),
    ("depth_exceeded", Json.strings output.depthExceeded),
    ("unresolved", Json.strings output.unresolved)]

/-- The names that a text uses as a document. -/
def Directives.toJson (names : Directives) : Json :=
  .object [("includes", Json.strings names.includes),
    ("conditionals", Json.strings names.conditionals),
    ("placeholders", Json.strings names.placeholders)]

end TemplateRegistry.Markup
