import TemplateRegistry.Json.Reader
import TemplateRegistry.Proofs.JsonTokens
/-!
# Documents read from their tokens

The reader keeps a stack of open containers.  Over any stack, the tokens of a
document take it to where the document is complete, provided that the containers
open and those of the document together are no more than it allows.

* `Json.depth` — how many containers of a document are inside each other;
* `run?_tokens` — the tokens of a document, over any stack;
* `ofString?_pretty`, `ofString?_compact` — a printed document is read as it
  was.
-/

namespace TemplateRegistry.Json

mutual

/-- How many containers are inside each other, the outermost included. -/
def depth : Json → Nat
  | .array items => itemsDepth items + 1
  | .object members => membersDepth members + 1
  | _ => 0

/-- The depth of the deepest of a list of documents. -/
def itemsDepth : List Json → Nat
  | [] => 0
  | item :: rest => max (depth item) (itemsDepth rest)

/-- The depth of the deepest member. -/
def membersDepth : List (String × Json) → Nat
  | [] => 0
  | (_, value) :: rest => max (depth value) (membersDepth rest)

end

section Reading

variable {stack : List Open}

/-- A container is kept while there is room for it. -/
theorem enclosed_eq (container : Json) (h : stack.length < depthLimit) :
    enclosed stack container = container := by
  rw [enclosed, if_pos]
  rw [List.isEmpty_iff, List.drop_eq_nil_iff]
  exact Nat.le_pred_of_lt h

/-- A member as the reader collects it. -/
def named (member : String × Json) : Option String × Json :=
  (some member.1, member.2)

/-- Members that were named are the members of an object. -/
theorem ofMembers_named (members : List (String × Json)) :
    ofMembers (members.map named) = .object members := by
  have hmembers : (members.map named).mapM
      (fun member => member.1.map fun name => (name, member.2)) =
        some members := by
    induction members with
    | nil => rfl
    | cons member rest ih => simp [named, ih]
  unfold ofMembers
  split
  next found hfound => rw [Option.some.inj (hfound.symm.trans hmembers)]
  next hnone => cases hnone.symm.trans hmembers

/-- Closing an array completes it with the items that were read. -/
theorem closeArray_eq (items : List Json) (h : stack.length < depthLimit) :
    Machine.closeArray items.reverse stack =
      .complete (.array items) stack := by
  rw [Machine.closeArray, List.reverse_reverse, enclosed_eq _ h]

/-- Closing an object completes it with the members that were read. -/
theorem closeObject_eq (members : List (String × Json))
    (h : stack.length < depthLimit) :
    Machine.closeObject (members.map named).reverse stack =
      .complete (.object members) stack := by
  rw [Machine.closeObject, List.reverse_reverse, ofMembers_named,
    enclosed_eq _ h]

/-- A machine that some tokens take to another one, whatever comes after
them. -/
def Leads (machine : Machine) (tokens : List JsonToken)
    (next : Machine) : Prop :=
  ∀ rest, machine.run? (tokens ++ rest) = next.run? rest

/-- Without a token a machine stays where it is. -/
theorem leads_nil (machine : Machine) : Leads machine [] machine :=
  fun _ => rfl

/-- Tokens can follow one another. -/
theorem Leads.append {first second third : Machine}
    {tokens others : List JsonToken} (h : Leads first tokens second)
    (hmore : Leads second others third) :
    Leads first (tokens ++ others) third := by
  intro rest
  rw [List.append_assoc, h, hmore]

/-- The first token is taken in one step. -/
theorem Leads.cons {machine next last : Machine} {token : JsonToken}
    {tokens : List JsonToken} (h : machine.step? token = some next)
    (hmore : Leads next tokens last) :
    Leads machine (token :: tokens) last := by
  intro rest
  rw [List.cons_append, Machine.run?, h]
  exact hmore rest

/-- A single token is one step. -/
theorem leads_token {machine next : Machine} {token : JsonToken}
    (h : machine.step? token = some next) : Leads machine [token] next :=
  .cons h (leads_nil next)

/-- A value may come next: alone, or as the first item of an array. -/
def AwaitsValue (awaiting : Awaiting) : Prop :=
  awaiting = .value ∨ awaiting = .item

/-- A name may come next: the first one of an object or a further one. -/
def AwaitsName (awaiting : Awaiting)
    (before : List (Option String × Json)) : Prop :=
  awaiting = .name before ∨ awaiting = .nextName before

/-- Where a value is awaited, a token starts one. -/
theorem step?_start {awaiting : Awaiting} {token : JsonToken}
    (h : AwaitsValue awaiting) (htoken : token ≠ .arrayClose) :
    Machine.step? ⟨stack, awaiting⟩ token =
      Machine.startValue? stack token := by
  rcases h with rfl | rfl
  · cases token <;> rfl
  · cases token <;> first | rfl | exact absurd rfl htoken

/-- A value of one token. -/
theorem leads_single {awaiting : Awaiting} {token : JsonToken} {document : Json}
    (h : AwaitsValue awaiting) (htoken : token ≠ .arrayClose)
    (hstart : Machine.startValue? stack token =
      some (.complete document stack)) :
    Leads ⟨stack, awaiting⟩ [token] (.complete document stack) :=
  leads_token (by rw [step?_start h htoken, hstart])

/-- A name and its colon. -/
theorem leads_name {awaiting : Awaiting} {before : List (Option String × Json)}
    {name : String} {tokens : List JsonToken} {last : Machine}
    (h : AwaitsName awaiting before)
    (hvalue : Leads ⟨.object before (some name) :: stack, .value⟩ tokens last) :
    Leads ⟨stack, awaiting⟩ (.string (some name) :: .colon :: tokens) last := by
  have hstep : Machine.step? ⟨stack, awaiting⟩ (.string (some name)) =
      some ⟨stack, .colon before (some name)⟩ := by
    rcases h with rfl | rfl <;> rfl
  exact .cons hstep (.cons rfl hvalue)

mutual

/-- The tokens of a document complete it. -/
theorem leads_tokens (stack : List Open) {awaiting : Awaiting}
    (hawaits : AwaitsValue awaiting) :
    ∀ document : Json, document.Exact →
      stack.length + document.depth ≤ depthLimit →
      Leads ⟨stack, awaiting⟩ document.tokens (.complete document stack)
  | .null, _, _ => leads_single hawaits nofun rfl
  | .bool _, _, _ => leads_single hawaits nofun rfl
  | .number _, _, _ => leads_single hawaits nofun rfl
  | .string _, _, _ => leads_single hawaits nofun rfl
  | .array [], _, hdepth => by
      have hroom : stack.length < depthLimit := by
        rw [depth] at hdepth
        omega
      have hclose : Machine.step? ⟨.array [] :: stack, .item⟩ .arrayClose =
          some (.complete (.array []) stack) :=
        congrArg some (closeArray_eq [] hroom)
      exact .cons (step?_start hawaits nofun) (leads_token hclose)
  | .array (item :: rest), h, hdepth => by
      rw [depth] at hdepth
      have hitems :=
        leads_itemTokens stack (Or.inr rfl) [] (item :: rest) (by simp) h
          (by omega)
      rw [List.append_nil] at hitems
      have hclose :
          Machine.step? ⟨.array (item :: rest).reverse :: stack, .separator⟩
          .arrayClose = some (.complete (.array (item :: rest)) stack) :=
        congrArg some (closeArray_eq (item :: rest) (by omega))
      exact .cons (step?_start hawaits nofun)
        (hitems.append (leads_token hclose))
  | .object [], _, hdepth => by
      have hroom : stack.length < depthLimit := by
        rw [depth] at hdepth
        omega
      have hclose : Machine.step? ⟨stack, .name []⟩ .objectClose =
          some (.complete (.object []) stack) :=
        congrArg some (closeObject_eq [] hroom)
      exact .cons (step?_start hawaits nofun) (leads_token hclose)
  | .object (member :: rest), h, hdepth => by
      rw [depth] at hdepth
      obtain ⟨name, hmembers⟩ :=
        leads_memberTokens stack [] (Or.inl rfl) (member :: rest)
        (by simp) h (by omega)
      rw [List.append_nil] at hmembers
      have hclose :
        Machine.step?
            ⟨.object ((member :: rest).map named).reverse name :: stack,
              .separator⟩ .objectClose =
            some (.complete (.object (member :: rest)) stack) :=
        congrArg some (closeObject_eq (member :: rest) (by omega))
      exact .cons (step?_start hawaits nofun)
        (hmembers.append (leads_token hclose))
  | .illegible, h, _ => h.elim

/-- Items, after those that an array has. -/
theorem leads_itemTokens (stack : List Open) {awaiting : Awaiting}
    (hawaits : AwaitsValue awaiting) (before : List Json) :
    ∀ items : List Json, items ≠ [] → ExactItems items →
      stack.length + 1 + itemsDepth items ≤ depthLimit →
      Leads ⟨.array before :: stack, awaiting⟩ (itemTokens items)
        ⟨.array (items.reverse ++ before) :: stack, .separator⟩
  | [], hne, _, _ => absurd rfl hne
  | [item], _, h, hdepth => by
      rw [itemsDepth, itemsDepth] at hdepth
      exact leads_tokens (.array before :: stack) hawaits item h.1
        (by rw [List.length_cons]; omega)
  | item :: next :: rest, _, h, hdepth => by
      rw [itemsDepth] at hdepth
      have hitem := leads_tokens (.array before :: stack) hawaits item h.1
        (by rw [List.length_cons]; omega)
      have hrest :=
        leads_itemTokens stack (Or.inl rfl) (item :: before) (next :: rest)
        (by simp) h.2 (by omega)
      rw [List.reverse_cons, List.append_assoc]
      exact hitem.append (.cons rfl hrest)

/-- Members, after those that an object has. -/
theorem leads_memberTokens (stack : List Open) {awaiting : Awaiting}
    (before : List (Option String × Json))
    (hawaits : AwaitsName awaiting before) :
    ∀ members : List (String × Json), members ≠ [] → ExactMembers members →
      stack.length + 1 + membersDepth members ≤ depthLimit →
      ∃ name, Leads ⟨stack, awaiting⟩ (memberTokens members)
        ⟨.object ((members.map named).reverse ++ before) name :: stack,
          .separator⟩
  | [], hne, _, _ => absurd rfl hne
  | [(name, value)], _, h, hdepth => by
      rw [membersDepth, membersDepth] at hdepth
      have hvalue :=
        leads_tokens (.object before (some name) :: stack)
          (Or.inl rfl) value h.1
        (by rw [List.length_cons]; omega)
      exact ⟨some name, leads_name hawaits hvalue⟩
  | (name, value) :: next :: rest, _, h, hdepth => by
      rw [membersDepth] at hdepth
      have hvalue :=
        leads_tokens (.object before (some name) :: stack)
          (Or.inl rfl) value h.1
        (by rw [List.length_cons]; omega)
      obtain ⟨last, hrest⟩ :=
        leads_memberTokens stack ((some name, value) :: before)
        (Or.inr rfl) (next :: rest) (by simp) h.2 (by omega)
      refine ⟨last, ?_⟩
      rw [List.map_cons, List.reverse_cons, List.append_assoc]
      exact leads_name hawaits (hvalue.append (.cons rfl hrest))

end

/-- The tokens of a document spell it. -/
theorem ofTokens?_tokens {document : Json} (h : document.Exact)
    (hdepth : document.depth ≤ depthLimit) :
    ofTokens? document.tokens = some document := by
  have hleads :=
    leads_tokens [] (Or.inl rfl) document h (by simpa using hdepth) []
  rw [List.append_nil] at hleads
  rw [ofTokens?, hleads]
  rfl

/-- **A printed document is read as it was**, if its numbers are integers of 64
bits and no more containers are inside each other than the reader allows. -/
theorem ofString?_pretty {document : Json} (h : document.Exact)
    (hdepth : document.depth ≤ depthLimit) :
    ofString? document.pretty = some document := by
  rw [ofString?, ofChars?, ofChars?_pretty h]
  exact ofTokens?_tokens h hdepth

/-- So it is if it is printed without any blank. -/
theorem ofString?_compact {document : Json} (h : document.Exact)
    (hdepth : document.depth ≤ depthLimit) :
    ofString? document.compact = some document := by
  rw [ofString?, ofChars?, ofChars?_compact h]
  exact ofTokens?_tokens h hdepth

end Reading

end TemplateRegistry.Json
