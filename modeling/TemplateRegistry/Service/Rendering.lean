import TemplateRegistry.Markup.Render
import TemplateRegistry.Service.Basic
/-!
# Rendering from a store

The components that a text includes are loaded first, level by level: those the
text itself names, then those that these name, down to the include depth, each
name once.  A component that cannot be loaded counts as one that does not
exist.  Then the text is rendered, and the uses of what went into it are
counted; a use that cannot be counted is let go.
-/

namespace TemplateRegistry.Rendering

open Markup

/-- The active version of a template, rendered. -/
structure ActiveRender where
  template : TemplateVersion
  output : RenderOutput

/-- The components loaded for a render. -/
structure Prefetched where
  /-- The names asked for. -/
  seen : List String
  /-- What was found of them, by the name asked for. -/
  components : Table Component

namespace Prefetched

/-- Before anything is loaded. -/
def empty : Prefetched where
  seen := []
  components := []

/-- The texts of the loaded components. -/
def texts (loaded : Prefetched) : Components :=
  loaded.components.map fun entry => (entry.1, entry.2.content)

end Prefetched

/-- Load the components of one level, and give the names of the next. -/
def loadLevel :
    List String → Prefetched → Program StoreCalls (Prefetched × List String)
  | [], loaded => .done (loaded, [])
  | name :: rest, loaded =>
    if name ∈ loaded.seen then loadLevel rest loaded
    else
      .ask (I := StoreCalls) (.getActiveComponent name) fun outcome =>
        let loaded := { loaded with seen := name :: loaded.seen }
        match outcome with
        | .ended (.ok component) => do
          let (loaded, next) ← loadLevel rest
            { loaded with
              components := loaded.components.insert name component }
          return (loaded,
            (Directives.ofText component.content).includes ++ next)
        | _ => loadLevel rest loaded

/-- Load some levels of components, the first of which has the given names. -/
def loadLevels : Nat → List String → Prefetched → Program StoreCalls Prefetched
  | 0, _, loaded => .done loaded
  | _ + 1, [], loaded => .done loaded
  | levels + 1, name :: rest, loaded => do
    let (loaded, next) ← loadLevel (name :: rest) loaded
    loadLevels levels next loaded

/-- Load the components that a text needs. -/
def prefetch (config : Config) (content : String) :
    Program StoreCalls Prefetched :=
  loadLevels config.maxIncludeDepth (Directives.ofText content).includes .empty

/-- Count one use of each component that went into a text, whatever becomes of
the counting. -/
def recordComponentUsage (loaded : Prefetched) :
    List String → Program StoreCalls Unit
  | [] => .done ()
  | name :: rest =>
    match loaded.components.get? name with
    | none => recordComponentUsage loaded rest
    | some component =>
      .ask (I := StoreCalls) (.incrementComponentUsage component.id) fun _ =>
        recordComponentUsage loaded rest

/-- The largest number of unresolved placeholders that is recorded. -/
def largestCount : Nat := Nat.pow 2 31 - 1

/-- Record the render of a version, whatever becomes of the recording. -/
def recordTemplateUsage (t : TemplateVersion) (output : RenderOutput) :
    Program StoreCalls Unit :=
  let unresolved : Int := min output.unresolved.length largestCount
  .ask (I := StoreCalls) (.recordTemplateUsage t.id unresolved) fun _ =>
    .done ()

/-- Render a text.  This never fails; what could not be resolved is in the
output. -/
def renderOutput (config : Config) (content : String) (params : Parameters) :
    Program StoreCalls RenderOutput := do
  let loaded ← prefetch config content
  let output := render config.maxIncludeDepth content params loaded.texts
  recordComponentUsage loaded output.included
  return output

/-- Render a text; an include cycle is an error, and then no use is counted. -/
def renderChecked (config : Config) (content : String) (params : Parameters) :
    Service RenderOutput := do
  let loaded ← prefetch config content
  let output ← Service.ofExcept
    (Markup.renderChecked config.maxIncludeDepth content params loaded.texts)
  recordComponentUsage loaded output.included
  return output

/-- Render the active version of a template, with defaults for the parameters
that were not given. -/
def renderActive (config : Config) (name : String) (params : Parameters) :
    Service ActiveRender := do
  let t ← Service.call config (.getActive name)
  let output ← renderOutput config t.content (applyDefaults t.parameters params)
  recordTemplateUsage t output
  return { template := t, output }

/-- The error for required parameters without a value. -/
def missingParameters (names : List String) : RegistryError :=
  .validation "parameters" ("Missing required parameters: " ++
    ", ".intercalate names)

/-- Render the active version of a template, unless a required parameter has no
value or an include chain is a cycle. -/
def renderActiveStrict (config : Config) (name : String) (params : Parameters) :
    Service ActiveRender := do
  let t ← Service.call config (.getActive name)
  let missing := missingRequired t.parameters params
  if missing.isEmpty then
    let output ← renderChecked config t.content
      (applyDefaults t.parameters params)
    recordTemplateUsage t output
    return { template := t, output }
  else
    Service.fail (missingParameters missing)

/-- The required parameters of the active version of a template that have no
value. -/
def checkRequired (config : Config) (name : String) (params : Parameters) :
    Service (List String) := do
  let t ← Service.call config (.getActive name)
  return missingRequired t.parameters params

end TemplateRegistry.Rendering
