import TemplateRegistry.Markup.Include
import TemplateRegistry.Markup.Lookup
import TemplateRegistry.Markup.Section
/-!
# Rendering

A text is rendered in three passes: components are included, sections are
resolved, placeholders are replaced by the texts of values.  A value is put in
last and never read again.  Rendering always succeeds; what could not be
resolved is listed in the `RenderOutput`.

* `segmentsOf` — a text as literals and parameter names, the form in which the
  values are put in;
* `render` — the three passes;
* `renderChecked` — the same, but an include cycle is an error.
-/

namespace TemplateRegistry.Markup

/-- A literal text or a place for the value of a parameter, with the tag that
marks it. -/
inductive Segment
  | literal (text : List Char)
  | placeholder (name : String) (tag : List Char)
  deriving DecidableEq

/-- The segment of a piece. -/
def segmentOf : Piece → Segment
  | .char c => .literal [c]
  | .tag body =>
    match placeholder? body with
    | some name => .placeholder name (writeTag body)
    | none => .literal (writeTag body)

/-- The segments of a text. -/
def segmentsOf (s : List Char) : List Segment :=
  (pieces s).map segmentOf

/-- The text of a segment; a place without a value keeps its tag. -/
def Segment.fill (params : Parameters) : Segment → List Char
  | .literal text => text
  | .placeholder name tag =>
    match lookup params name with
    | some value => value.display.toList
    | none => tag

/-- The parameter that a segment lacks a value for. -/
def Segment.unresolved? (params : Parameters) : Segment → Option String
  | .literal _ => none
  | .placeholder name _ =>
    if (lookup params name).isNone then some name else none

/-- The result of a render. -/
structure RenderOutput where
  text : String
  /-- Components put in, one entry per include. -/
  included : List String
  /-- Includes of components that do not exist. -/
  missing : List String
  /-- Include chains that came back to a component of their own. -/
  cycles : List (List String)
  /-- Includes beyond the include depth. -/
  depthExceeded : List String
  /-- Placeholders without a value. -/
  unresolved : List String
  deriving DecidableEq

/-- Whether every reference was resolved. -/
def RenderOutput.isComplete (output : RenderOutput) : Bool :=
  output.missing.isEmpty && output.cycles.isEmpty &&
    output.depthExceeded.isEmpty && output.unresolved.isEmpty

/-- How many levels of nested includes are replaced unless configured
otherwise. -/
def defaultIncludeDepth : Nat := 8

/-- Render a text. -/
def render (maxDepth : Nat) (content : String) (params : Parameters)
    (components : Components) : RenderOutput :=
  let expansion := expand components maxDepth [] content.toList
  let segments := segmentsOf (resolveSections (isTruthy params) expansion.text)
  { text := String.ofList (segments.flatMap (Segment.fill params))
    included := expansion.included
    missing := expansion.missing
    cycles := expansion.cycles
    depthExceeded := expansion.depthExceeded
    unresolved := segments.filterMap (Segment.unresolved? params) }

/-- Render a text; the first include cycle is an error. -/
def renderChecked (maxDepth : Nat) (content : String) (params : Parameters)
    (components : Components) : Except RegistryError RenderOutput :=
  let output := render maxDepth content params components
  match output.cycles with
  | path :: _ => .error (.componentCycle path)
  | [] => .ok output

end TemplateRegistry.Markup
