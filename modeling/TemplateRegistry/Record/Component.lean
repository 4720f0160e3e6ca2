import TemplateRegistry.Template.Fields
import TemplateRegistry.Time.Timestamp
/-!
# Records of components

A component is a named text that other texts include.  Writing one makes it the
active version of its name; earlier versions stay.

`NewComponent.prepared` gives a component as it is stored, or the first thing
wrong with it.
-/

namespace TemplateRegistry

/-- One version of a component. -/
structure Component where
  id : Int
  name : String
  version : Int
  content : String
  category : String
  tags : List String
  isActive : Bool
  /-- How often it was put into a text. -/
  usageCount : Int
  createdAt : Timestamp
  updatedAt : Timestamp

/-- A component to be written. -/
structure NewComponent where
  name : String
  content : String
  category : String
  tags : List String

namespace NewComponent

/-- The component as it is stored, or the first thing wrong with it: name,
text, category, then tags.  A blank category stands for the default one. -/
def prepared (new : NewComponent) : Except RegistryError NewComponent := do
  validateName new.name
  validateContent new.content
  let category :=
    if Text.isBlankText new.category then defaultCategory
    else Text.trim new.category
  validateCategory category
  validateTags new.tags
  return { new with category, tags := normalizeTags new.tags }

/-- The active version that a store writes for a new component. -/
def withId (id version : Int) (now : Timestamp) (new : NewComponent) :
    Component where
  id := id
  name := new.name
  version := version
  content := new.content
  category := new.category
  tags := new.tags
  isActive := true
  usageCount := 0
  createdAt := now
  updatedAt := now

end NewComponent

end TemplateRegistry
