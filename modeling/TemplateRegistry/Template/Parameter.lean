import TemplateRegistry.Error
import TemplateRegistry.Text.Blank
import TemplateRegistry.Value.Basic
/-!
# Parameter declarations

A template version declares the parameters its text uses: name, description,
type, whether a value is required, and perhaps a default.

* `ParameterDef.validate` — what is wrong with a declaration, if anything;
* `validateParameters` — what is wrong with a list of them: too many, a bad one,
  or a name used twice;
* `applyDefaults` — values completed by the declared defaults;
* `missingRequired` — the required names that have neither.

Names are measured in bytes of UTF-8.
-/

namespace TemplateRegistry

/-- The declared type of a parameter. -/
inductive ParameterType
  | string
  | number
  | boolean
  | array
  | object
  deriving DecidableEq

namespace ParameterType

/-- Every type, in the order in which messages list them. -/
def all : List ParameterType := [string, number, boolean, array, object]

/-- The name of a type. -/
def name : ParameterType → String
  | string => "string"
  | number => "number"
  | boolean => "boolean"
  | array => "array"
  | object => "object"

/-- The type of a name. -/
def find? (s : String) : Option ParameterType :=
  all.find? fun type => type.name = s

/-- The type of a name, or the error that lists the names there are. -/
def ofName (s : String) : Except RegistryError ParameterType :=
  match find? s with
  | some type => .ok type
  | none =>
    .error (.validation "type"
      (s!"Invalid parameter type '{s}'. Must be one of: " ++
        ", ".intercalate (all.map name)))

/-- Whether a value is of a type. -/
def accepts : ParameterType → Value → Bool
  | string, .string _ => true
  | number, .number _ => true
  | boolean, .boolean _ => true
  | array, .array _ => true
  | object, .object _ => true
  | _, _ => false

/-- A type is found by its name. -/
theorem find?_name (type : ParameterType) : find? type.name = some type := by
  cases type <;> decide

end ParameterType

/-- A declared parameter. -/
structure ParameterDef where
  name : String
  description : String
  required : Bool
  type : ParameterType
  defaultValue : Option Value

namespace ParameterDef

/-- The longest name of a parameter. -/
def nameLimit : Nat := 100

/-- The most parameters of one version. -/
def countLimit : Nat := 50

/-- The path of a field of the declaration at an index. -/
def fieldPath (index : Nat) (field : String) : String :=
  s!"parameters[{index}].{field}"

/-- What is wrong with the default of a declaration. -/
def validateDefault (index : Nat) (param : ParameterDef) :
    Except RegistryError Unit :=
  match param.defaultValue with
  | none => .ok ()
  | some value =>
    if !param.type.accepts value then
      .error (.validation (fieldPath index "default_value")
        s!"Default value for '{param.name}' is {value.typeName} but the declared type is {param.type.name}")
    else if !value.isFinite then
      .error (.validation (fieldPath index "default_value")
        s!"Default value for '{param.name}' must not contain NaN or infinity")
    else .ok ()

/-- What is wrong with the declaration at an index: its name, its description,
then its default. -/
def validate (index : Nat) (param : ParameterDef) : Except RegistryError Unit :=
  if Text.isBlankText param.name then
    .error (.validation (fieldPath index "name") "Parameter name is required")
  else if nameLimit < param.name.utf8ByteSize then
    .error (.validation (fieldPath index "name")
      s!"Parameter name exceeds maximum length of {nameLimit} characters (got {param.name.utf8ByteSize})")
  else if Text.isBlankText param.description then
    .error (.validation (fieldPath index "description")
      s!"Parameter '{param.name}' requires a description")
  else validateDefault index param

/-- Equality of declarations; numbers in defaults compare as numbers. -/
def same (param other : ParameterDef) : Bool :=
  param.name = other.name && param.description = other.description &&
    param.required = other.required && param.type = other.type &&
    param.defaultValue == other.defaultValue

end ParameterDef

/-- What is wrong with the declarations from an index on, given the names seen
before. -/
def validateFrom (seen : List String) (index : Nat) :
    List ParameterDef → Except RegistryError Unit
  | [] => .ok ()
  | param :: rest =>
    match param.validate index with
    | .error error => .error error
    | .ok () =>
      if param.name ∈ seen then
        .error (.validation (ParameterDef.fieldPath index "name")
          s!"Duplicate parameter name '{param.name}'")
      else validateFrom (param.name :: seen) (index + 1) rest

/-- What is wrong with the declarations of a version. -/
def validateParameters (params : List ParameterDef) :
    Except RegistryError Unit :=
  if ParameterDef.countLimit < params.length then
    .error (.validation "parameters"
      s!"Parameter count exceeds maximum of {ParameterDef.countLimit} (got {params.length})")
  else validateFrom [] 0 params

/-- Values completed by the declared defaults of the names they lack. -/
def applyDefaults (params : List ParameterDef) (values : Parameters) :
    Parameters :=
  params.foldl
    (fun merged param =>
      match param.defaultValue with
      | some value => merged.insertNew param.name value
      | none => merged)
    values

/-- The required parameters that have neither a value nor a default, in
declared order. -/
def missingRequired (params : List ParameterDef) (values : Parameters) :
    List String :=
  (params.filter fun param =>
    param.required && param.defaultValue.isNone &&
      !values.contains param.name).map (·.name)

end TemplateRegistry
