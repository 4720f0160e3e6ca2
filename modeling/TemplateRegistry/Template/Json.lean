import TemplateRegistry.Json.Record
import TemplateRegistry.Template.Fields
import TemplateRegistry.Value.Reader
/-!
# Declarations and fields as JSON documents

The two records are written with their members in declared order.  In reading,
`required` is false and a default absent unless given, the category is the
default one, and there are no tags or parameters; everything else must be
given.
-/

namespace TemplateRegistry

namespace ParameterType

/-- A type by its name. -/
def ofJson? (document : Json) : Option ParameterType :=
  document.name?.bind find?

/-- A type as its name. -/
def toJson (type : ParameterType) : Json :=
  .string type.name

end ParameterType

namespace ParameterDef

/-- A declaration as a document. -/
def toJson (param : ParameterDef) : Json :=
  .object [("name", .string param.name),
    ("description", .string param.description),
    ("required", .bool param.required), ("type", param.type.toJson),
    ("default_value", Json.option Value.toJson param.defaultValue)]

/-- The declaration of a document. -/
def ofJson? (document : Json) : Option ParameterDef := do
  match ← document.slots? ["name", "description", "required", "type",
    "default_value"] with
  | [name, description, required, type, defaultValue] =>
    return {
      name := ← name.required Json.string?
      description := ← description.required Json.string?
      required := ← required.orElse false Json.bool?
      type := ← type.required ParameterType.ofJson?
      defaultValue := ← defaultValue.nullableOrCut Value.ofJson? }
  | _ => none

end ParameterDef

namespace Fields

/-- The fields of a version as a document. -/
def toJson (fields : Fields) : Json :=
  .object [("content", .string fields.content),
    ("category", .string fields.category), ("tags", Json.strings fields.tags),
    ("parameters", .array (fields.parameters.map ParameterDef.toJson))]

/-- The fields of a document. -/
def ofJson? (document : Json) : Option Fields := do
  match ← document.slots? ["content", "category", "tags", "parameters"] with
  | [content, category, tags, parameters] =>
    return {
      content := ← content.required Json.string?
      category := ← category.orElse defaultCategory Json.string?
      tags := ← tags.orElse [] (Json.list? Json.string?)
      parameters := ← parameters.orElse [] (Json.list? ParameterDef.ofJson?) }
  | _ => none

end Fields

end TemplateRegistry
