import TemplateRegistry.Markup.Directive
/-!
# Including components

An include directive is replaced by the text of the component it names, in
which further includes are replaced in turn.  `path` is the chain of components
that enclose the text, outermost first.

What cannot be included leaves a marker in the text, and a trace in the lists
of the `Expansion`.  In this order:

* a component of the path would include itself: the chain is a cycle;
* the path is as long as the include depth allows;
* there is no such component.

`findCycle` asks the same of a component that is about to be written.
-/

namespace TemplateRegistry.Markup

/-- The texts of components by name. -/
abbrev Components : Type := List (String × String)

/-- The text of a component. -/
def Components.text? (components : Components) (name : String) :
    Option String :=
  components.lookup name

/-- A text with its includes replaced, and what happened to each of them. -/
structure Expansion where
  text : List Char
  /-- Components put in, one entry per include. -/
  included : List String
  /-- Includes of components that do not exist. -/
  missing : List String
  /-- Include chains that came back to a component of their own. -/
  cycles : List (List String)
  /-- Includes beyond the include depth. -/
  depthExceeded : List String
  deriving DecidableEq

namespace Expansion

/-- A text without includes. -/
def literal (text : List Char) : Expansion :=
  ⟨text, [], [], [], []⟩

/-- One expansion after another. -/
def append (a b : Expansion) : Expansion :=
  ⟨a.text ++ b.text, a.included ++ b.included, a.missing ++ b.missing,
    a.cycles ++ b.cycles, a.depthExceeded ++ b.depthExceeded⟩

/-- Expansions one after another. -/
def concat (parts : List Expansion) : Expansion :=
  parts.foldr append (literal [])

end Expansion

/-- Stands for an include of a component that does not exist. -/
def notFoundMarker (name : String) : String :=
  s!"[Component not found: {name}]"

/-- Stands for an include that would go round in a cycle. -/
def cycleMarker (path : List String) : String :=
  "[Component cycle: " ++ " -> ".intercalate path ++ "]"

/-- Stands for an include beyond the include depth. -/
def depthMarker (name : String) : String :=
  s!"[Component depth limit exceeded: {name}]"

/-- The expansion of one include, where `depth` more levels are allowed below
the path. -/
def expandInclude (components : Components) :
    Nat → List String → String → Expansion
  | depth, path, name =>
    if name ∈ path then
      { Expansion.literal (cycleMarker (path ++ [name])).toList with
        cycles := [path ++ [name]] }
    else
      match depth with
      | 0 =>
        { Expansion.literal (depthMarker name).toList with
          depthExceeded := [name] }
      | depth + 1 =>
        match components.text? name with
        | none =>
          { Expansion.literal (notFoundMarker name).toList with
            missing := [name] }
        | some content =>
          let inner := Expansion.concat ((pieces content.toList).map fun
            | .char c => Expansion.literal [c]
            | .tag body =>
              match include? body with
              | some nested =>
                expandInclude components depth (path ++ [name]) nested
              | none => Expansion.literal (writeTag body))
          { inner with included := name :: inner.included }

/-- The expansion of one piece of a text. -/
def expandPiece (components : Components) (depth : Nat) (path : List String) :
    Piece → Expansion
  | .char c => Expansion.literal [c]
  | .tag body =>
    match include? body with
    | some name => expandInclude components depth path name
    | none => Expansion.literal (writeTag body)

/-- The expansion of a text, where `depth` more levels are allowed below the
path. -/
def expand (components : Components) (depth : Nat) (path : List String)
    (s : List Char) :
    Expansion :=
  Expansion.concat ((pieces s).map (expandPiece components depth path))

/-- The include chain by which a component with a new text would come back to
one of its own, if there is one. -/
def findCycle (maxDepth : Nat) (name content : String)
    (components : Components) :
    Option (List String) :=
  (expand ((name, content) :: components) (maxDepth - 1) [name]
    content.toList).cycles.head?

end TemplateRegistry.Markup
