import TemplateRegistry.Markup.Piece
import TemplateRegistry.Table
import TemplateRegistry.Template.Fields
/-!
# Directives

The words of a tag decide what it directs:

* `include <component>` — put the text of a component here;
* `if <parameter>`, `else`, `endif` — bound a section;
* `<parameter>` — put the value of a parameter here.

Any other tag is plain text, and so is a tag that holds a reserved word where a
parameter would stand.  `Directives.ofText` lists the names a text uses.
-/

namespace TemplateRegistry.Markup

/-- Words that name no parameter in a placeholder. -/
def reservedWords : List String := ["include", "if", "else", "endif"]

/-- The first character of a parameter name: an ASCII letter or a low line. -/
def isNameStart (c : Char) : Bool :=
  c.isAlpha || c = '_'

/-- A further character of a parameter name: an ASCII letter or digit, a low
line or a full stop. -/
def isNameRest (c : Char) : Bool :=
  c.isAlphanum || c = '_' || c = '.'

/-- The name of a parameter, perhaps with a path of keys after full stops. -/
def isParameterName : List Char → Bool
  | [] => false
  | c :: rest => isNameStart c && rest.all isNameRest

/-- A tag that bounds a section. -/
inductive Control
  | opening (name : String)
  | otherwise
  | closing
  deriving DecidableEq

/-- The component a tag includes. -/
def include? (body : List Char) : Option String :=
  match Text.words body with
  | [word, name] =>
    if word = "include".toList ∧ name.all isNameChar then
      some (String.ofList name)
    else none
  | _ => none

/-- The bound of a section that a tag is. -/
def control? (body : List Char) : Option Control :=
  match Text.words body with
  | [word] =>
    if word = "else".toList then some .otherwise
    else if word = "endif".toList then some .closing
    else none
  | [word, name] =>
    if word = "if".toList ∧ isParameterName name then
      some (.opening (String.ofList name))
    else none
  | _ => none

/-- The parameter whose value a tag stands for. -/
def placeholder? (body : List Char) : Option String :=
  match Text.words body with
  | [word] =>
    if isParameterName word ∧ String.ofList word ∉ reservedWords then
      some (String.ofList word)
    else none
  | _ => none

/-- What the pieces that are tags of a kind say, in order. -/
def tagsOf {α : Type} (kind : List Char → Option α) (ps : List Piece) :
    List α :=
  ps.filterMap fun
    | .tag body => kind body
    | .char _ => none

/-- The components a text includes, in order and with repetitions. -/
def includesOf (s : List Char) : List String :=
  tagsOf include? (pieces s)

/-- The names a text uses, each kind ascending and each name once. -/
structure Directives where
  includes : List String
  conditionals : List String
  placeholders : List String
  deriving DecidableEq

/-- The parameter a section depends on, if the bound opens one. -/
def Control.parameter? : Control → Option String
  | .opening name => some name
  | _ => none

/-- The names a text uses. -/
def Directives.ofText (content : String) : Directives :=
  let ps := pieces content.toList
  { includes := Ascending.ofList (tagsOf include? ps)
    conditionals :=
      Ascending.ofList ((tagsOf control? ps).filterMap Control.parameter?)
    placeholders := Ascending.ofList (tagsOf placeholder? ps) }

end TemplateRegistry.Markup
