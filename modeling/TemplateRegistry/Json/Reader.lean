import TemplateRegistry.Json.Token
/-!
# Reading JSON documents

A document is read from its tokens by a machine with a stack of the arrays and
objects still open and a state that says what must come next.  A container
inside 127 others is illegible.

* `Json.ofTokens?` — the document that a list of tokens spells;
* `Json.ofString?` — the document of a text.
-/

namespace TemplateRegistry

namespace Json

/-- A container still open: what it holds so far, in reverse, and for an object
the name whose value comes next. -/
inductive Open
  | array (items : List Json)
  | object (members : List (Option String × Json)) (name : Option String)

/-- What must come next. -/
inductive Awaiting
  /-- A value. -/
  | value
  /-- A first item or the end of an array. -/
  | item
  /-- A first name or the end of an object. -/
  | name (members : List (Option String × Json))
  /-- A further name of an object. -/
  | nextName (members : List (Option String × Json))
  /-- The colon after a name. -/
  | colon (members : List (Option String × Json)) (name : Option String)
  /-- A comma or the end of the innermost container. -/
  | separator
  /-- Nothing: the document is complete. -/
  | nothing (document : Json)

/-- How many containers may be inside each other, the outermost included. -/
def depthLimit : Nat := 127

/-- The machine that reads a document. -/
structure Machine where
  stack : List Open
  awaiting : Awaiting

/-- The machine after a complete value. -/
def Machine.complete (value : Json) : List Open → Machine
  | [] => ⟨[], .nothing value⟩
  | .array items :: stack => ⟨.array (value :: items) :: stack, .separator⟩
  | .object members name :: stack =>
    ⟨.object ((name, value) :: members) name :: stack, .separator⟩

/-- A container inside the open ones, unless they are too many. -/
def enclosed (stack : List Open) (container : Json) : Json :=
  if (stack.drop (depthLimit - 1)).isEmpty then container else .illegible

/-- The object of some members, unless a name is not legible. -/
def ofMembers (members : List (Option String × Json)) : Json :=
  match members.mapM fun (name, value) => name.map fun name =>
    (name, value) with
  | some members => .object members
  | none => .illegible

/-- The machine after the end of an array whose items are given in reverse. -/
def Machine.closeArray (items : List Json) (stack : List Open) : Machine :=
  complete (enclosed stack (.array items.reverse)) stack

/-- The machine after the end of an object whose members are given in
reverse. -/
def Machine.closeObject (members : List (Option String × Json))
    (stack : List Open) : Machine :=
  complete (enclosed stack (ofMembers members.reverse)) stack

/-- The machine after the first token of a value. -/
def Machine.startValue? (stack : List Open) : JsonToken → Option Machine
  | .null => some (complete .null stack)
  | .bool b => some (complete (.bool b) stack)
  | .number n => some (complete (.number n) stack)
  | .string (some s) => some (complete (.string s) stack)
  | .string none => some (complete .illegible stack)
  | .arrayOpen => some ⟨.array [] :: stack, .item⟩
  | .objectOpen => some ⟨stack, .name []⟩
  | _ => none

/-- The machine after one more token, unless the tokens spell no document. -/
def Machine.step? (machine : Machine) (token : JsonToken) : Option Machine :=
  match machine.awaiting, token with
  | .value, token => startValue? machine.stack token
  | .item, .arrayClose =>
    match machine.stack with
    | .array items :: stack => some (closeArray items stack)
    | _ => none
  | .item, token => startValue? machine.stack token
  | .name members, .objectClose => some (closeObject members machine.stack)
  | .name members, .string name => some ⟨machine.stack, .colon members name⟩
  | .nextName members, .string name => some ⟨machine.stack, .colon members name⟩
  | .colon members name, .colon =>
    some ⟨.object members name :: machine.stack, .value⟩
  | .separator, .comma =>
    match machine.stack with
    | .array items :: stack => some ⟨.array items :: stack, .value⟩
    | .object members _ :: stack => some ⟨stack, .nextName members⟩
    | [] => none
  | .separator, .arrayClose =>
    match machine.stack with
    | .array items :: stack => some (closeArray items stack)
    | _ => none
  | .separator, .objectClose =>
    match machine.stack with
    | .object members _ :: stack => some (closeObject members stack)
    | _ => none
  | _, _ => none

/-- The machine after a list of tokens. -/
def Machine.run? : Machine → List JsonToken → Option Machine
  | machine, [] => some machine
  | machine, token :: rest =>
    match machine.step? token with
    | some next => next.run? rest
    | none => none

/-- The document that a list of tokens spells. -/
def ofTokens? (tokens : List JsonToken) : Option Json :=
  match Machine.run? ⟨[], .value⟩ tokens with
  | some ⟨_, .nothing document⟩ => some document
  | _ => none

/-- The document of a text. -/
def ofChars? (s : List Char) : Option Json :=
  (JsonToken.ofChars? s).bind ofTokens?

/-- The document of a text. -/
def ofString? (s : String) : Option Json :=
  ofChars? s.toList

end Json

end TemplateRegistry
