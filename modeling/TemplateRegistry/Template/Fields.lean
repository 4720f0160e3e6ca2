import TemplateRegistry.Template.Parameter
/-!
# The fields of a template version

The part of a template that each version brings anew: its text, a category,
tags and declared parameters.

* `validateName`, `validateContent`, `validateCategory`, `validateTags`,
  `validateNotes` — what is wrong with one of them, if anything;
* `normalizeTags` — tags trimmed, ascending and each once;
* `Fields.validated` — the fields as they are stored, or the first thing wrong.

Texts are measured in characters, everything else in bytes of UTF-8.
-/

namespace TemplateRegistry

/-- The longest name of a template or component. -/
def nameLimit : Nat := 200

/-- The longest text of a template or component. -/
def contentLimit : Nat := 100000

/-- The longest category. -/
def categoryLimit : Nat := 100

/-- The most tags of one version. -/
def tagCountLimit : Nat := 20

/-- The longest tag. -/
def tagLimit : Nat := 50

/-- The longest notes of a version. -/
def notesLimit : Nat := 1000

/-- The category of a version that names none. -/
def defaultCategory : String := "general"

/-- A character that a name may hold: an ASCII letter or digit, a low line, a
full stop, or a hyphen. -/
def isNameChar (c : Char) : Bool :=
  c.isAlphanum || c = '_' || c = '.' || c = '-'

/-- What is wrong with the name of a template or component. -/
def validateName (name : String) : Except RegistryError Unit :=
  if name.isEmpty then .error (.validation "name" "Name must not be empty")
  else if nameLimit < name.utf8ByteSize then
    .error (.validation "name"
      s!"Name exceeds maximum length of {nameLimit} characters (got {name.utf8ByteSize})")
  else if !name.toList.all isNameChar then
    .error (.validation "name"
      s!"Name '{name}' may only contain letters, digits, '_', '.', and '-'")
  else .ok ()

/-- What is wrong with a text. -/
def validateContent (content : String) : Except RegistryError Unit :=
  if Text.isBlankText content then
    .error (.validation "content" "Content must not be empty")
  else if contentLimit < content.length then
    .error (.validation "content"
      s!"Content exceeds maximum length of {contentLimit} characters (got {content.length})")
  else .ok ()

/-- What is wrong with a category. -/
def validateCategory (category : String) : Except RegistryError Unit :=
  if Text.isBlankText category then
    .error (.validation "category" "Category must not be empty")
  else if categoryLimit < category.utf8ByteSize then
    .error (.validation "category"
      s!"Category exceeds maximum length of {categoryLimit} characters")
  else .ok ()

/-- What is wrong with the tags from an index on. -/
def validateTagsFrom (index : Nat) : List String → Except RegistryError Unit
  | [] => .ok ()
  | tag :: rest =>
    if Text.isBlankText tag then
      .error (.validation s!"tags[{index}]" "Tag must not be empty")
    else if tagLimit < tag.utf8ByteSize then
      .error (.validation s!"tags[{index}]"
        s!"Tag exceeds maximum length of {tagLimit} characters")
    else validateTagsFrom (index + 1) rest

/-- What is wrong with the tags of a version. -/
def validateTags (tags : List String) : Except RegistryError Unit :=
  if tagCountLimit < tags.length then
    .error (.validation "tags"
      s!"Tag count exceeds maximum of {tagCountLimit} (got {tags.length})")
  else validateTagsFrom 0 tags

/-- What is wrong with the notes of a version. -/
def validateNotes (notes : String) : Except RegistryError Unit :=
  if notesLimit < notes.utf8ByteSize then
    .error (.validation "notes"
      s!"Notes exceed maximum length of {notesLimit} characters (got {notes.utf8ByteSize})")
  else .ok ()

/-- Tags as they are stored: trimmed, ascending and each once. -/
def normalizeTags (tags : List String) : List String :=
  Ascending.ofList (tags.map Text.trim)

/-- The part of a template that each version brings anew. -/
structure Fields where
  content : String
  category : String
  tags : List String
  parameters : List ParameterDef

namespace Fields

/-- The fields as they are stored, or the first thing wrong with them: text,
category, tags, then parameters. -/
def validated (fields : Fields) : Except RegistryError Fields := do
  validateContent fields.content
  validateCategory fields.category
  validateTags fields.tags
  validateParameters fields.parameters
  return { fields with
    category := Text.trim fields.category
    tags := normalizeTags fields.tags }

end Fields

end TemplateRegistry
