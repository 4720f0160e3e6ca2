import TemplateRegistry.Value.Basic
import TemplateRegistry.Text.Blank
/-!
# Finding the value of a parameter name

A name is looked up as it stands first.  If that fails and it holds full stops,
its first part names a parameter and the other parts are keys of nested maps.
-/

namespace TemplateRegistry.Markup

/-- The parts of a name between full stops. -/
def nameParts (name : String) : List String :=
  (Text.splitWhen (· == '.') name.toList).map String.ofList

/-- The value a name stands for. -/
def lookup (params : Parameters) (name : String) : Option Value :=
  match params.get? name with
  | some value => some value
  | none =>
    match nameParts name with
    | first :: key :: path =>
      (params.get? first).bind (Value.follow? (key :: path))
    | _ => none

/-- Whether a name stands for a value that is true; one that stands for nothing
does not. -/
def isTruthy (params : Parameters) (name : String) : Bool :=
  (lookup params name).any Value.isTruthy

end TemplateRegistry.Markup
