import TemplateRegistry.Markup.Render
/-!
# Values are data

A value is put into a text after everything that directs the render was read:
the includes before any parameter is looked at, the sections with nothing but
the truth of parameters, the placeholders with nothing but whether there is a
value.  So two renders whose parameters agree in that go through the same steps,
and differ only in the texts of the values in their places.  No text within a
value, braces and all, can add, remove or close a directive.

* `SameShape` — parameters that agree in truth and in what has a value;
* `Part`, `joined?` — a rendered text as literals and places for values;
* `joined?_parts` — the parts of a text give its render, under any parameters of
  one shape;
* `render_of_sameShape` — the two renders.
-/

namespace TemplateRegistry.Markup

/-- Parameters under which every name is as true as under others, and stands for
a value if it does under the others. -/
structure SameShape (p q : Parameters) : Prop where
  truth : ∀ name, isTruthy p name = isTruthy q name
  known : ∀ name, (lookup p name).isSome = (lookup q name).isSome

/-- A part of a rendered text: a literal, or the place of the value that a name
stands for. -/
inductive Part
  | literal (text : String)
  | value (name : String)
  deriving DecidableEq

/-- The text of some parts, each place filled with the text of its value, if
every place has one. -/
def joined? (params : Parameters) : List Part → Option String
  | [] => some ""
  | .literal text :: rest => (joined? params rest).map fun after =>
    text ++ after
  | .value name :: rest => do
    let value ← lookup params name
    let after ← joined? params rest
    return value.display ++ after

variable {p q : Parameters}

namespace SameShape

theorem refl (p : Parameters) : SameShape p p :=
  ⟨fun _ => rfl, fun _ => rfl⟩

/-- A name stands for a value under both or under neither. -/
theorem lookup_cases (h : SameShape p q) (name : String) :
    (lookup p name = none ∧ lookup q name = none) ∨
      ∃ v w, lookup p name = some v ∧ lookup q name = some w := by
  have hknown := h.known name
  cases hp : lookup p name with
  | none =>
      left
      rw [hp] at hknown
      exact ⟨rfl, Option.not_isSome_iff_eq_none.mp (by simp [← hknown])⟩
  | some v =>
      right
      rw [hp] at hknown
      obtain ⟨w, hw⟩ := Option.isSome_iff_exists.mp hknown.symm
      exact ⟨v, w, rfl, hw⟩

/-- Sections are resolved alike. -/
theorem resolveSections_eq (h : SameShape p q) (s : List Char) :
    resolveSections (isTruthy p) s = resolveSections (isTruthy q) s := by
  rw [funext h.truth]

/-- The same placeholders lack a value. -/
theorem unresolved?_eq (h : SameShape p q) (segment : Segment) :
    segment.unresolved? p = segment.unresolved? q := by
  cases segment with
  | literal text => rfl
  | placeholder name tag =>
      rcases h.lookup_cases name with ⟨hp, hq⟩ | ⟨v, w, hp, hq⟩ <;>
        simp [Segment.unresolved?, hp, hq]

end SameShape

/-- The part that a segment becomes: a placeholder without a value stays the tag
it is. -/
def Segment.part (params : Parameters) : Segment → Part
  | .literal text => .literal (String.ofList text)
  | .placeholder name tag =>
    if (lookup params name).isSome then .value name
    else .literal (String.ofList tag)

/-- **The parts of a text.**  Chosen under some parameters, they give the text
under any parameters of the same shape. -/
theorem joined?_parts (h : SameShape p q) (segments : List Segment) :
    joined? q (segments.map (Segment.part p)) =
      some (String.ofList (segments.flatMap (Segment.fill q))) := by
  induction segments with
  | nil => rfl
  | cons segment rest ih =>
      rw [List.map_cons, List.flatMap_cons, String.ofList_append]
      cases segment with
      | literal text => simp [Segment.part, joined?, ih, Segment.fill]
      | placeholder name tag =>
          rcases h.lookup_cases name with ⟨hp, hq⟩ | ⟨v, w, hp, hq⟩
          · simp [Segment.part, joined?, ih, Segment.fill, hp, hq]
          · simp [Segment.part, joined?, ih, Segment.fill, hp, hq]

/-- **Values are data, never directives.**  Take any text, components and
include depth, and two sets of parameters under which the same names are true
and the same names stand for a value.  The two renders list the same includes,
missing components, cycles, includes beyond the depth and unresolved
placeholders, and there is one list of literals and places for values from which
either text is put together. -/
theorem render_of_sameShape (h : SameShape p q) (depth : Nat) (content : String)
    (components : Components) :
    let a := render depth content p components
    let b := render depth content q components
    a.included = b.included ∧ a.missing = b.missing ∧ a.cycles = b.cycles ∧
      a.depthExceeded = b.depthExceeded ∧ a.unresolved = b.unresolved ∧
      ∃ parts, joined? p parts = some a.text ∧
      joined? q parts = some b.text := by
  intro a b
  have hsegments :
      segmentsOf (resolveSections (isTruthy p)
        (expand components depth [] content.toList).text) =
      segmentsOf (resolveSections (isTruthy q)
        (expand components depth [] content.toList).text) := by
    rw [h.resolveSections_eq]
  refine ⟨rfl, rfl, rfl, rfl, ?_, _, joined?_parts (.refl p) _, ?_⟩
  · show List.filterMap _ _ = List.filterMap _ _
    rw [hsegments, funext h.unresolved?_eq]
  · rw [hsegments]
    exact joined?_parts h _

/-- A name and a mark of honour, as one would expect them. -/
def harmless : Parameters :=
  [("name", .string "Bob"), ("vip", .boolean true)]

/-- The same, from someone who writes directives into a name. -/
def hostile : Parameters :=
  [("name", .string "{{endif}}{{include secret}}{{vip}}"),
    ("vip", .string "yes")]

/-- The harmless and the hostile values have one shape. -/
theorem sameShape_hostile : SameShape harmless hostile := by
  have hcases :
      ∀ name, (lookup harmless name = none ∧ lookup hostile name = none) ∨
      ∃ v w, lookup harmless name = some v ∧ lookup hostile name = some w ∧
        v.isTruthy = true ∧ w.isTruthy = true := by
    intro name
    by_cases hname : "name" = name
    · subst hname
      exact Or.inr ⟨_, _, rfl, rfl, by decide, by decide⟩
    · by_cases hvip : "vip" = name
      · subst hvip
        exact Or.inr ⟨_, _, rfl, rfl, by decide, by decide⟩
      · -- a path of keys leads nowhere within values that are no maps
        left
        have hnone : ∀ params : Parameters,
            params = harmless ∨ params = hostile →
            lookup params name = none := by
          rintro params (rfl | rfl)
          all_goals
            simp only [lookup, harmless, hostile, Table.get?, if_neg hname,
              if_neg hvip]
            split
            · rename_i first key path _
              by_cases hfirst : "name" = first
              · simp [hfirst, Value.follow?]
              · by_cases hsecond : "vip" = first <;>
                  simp [hfirst, hsecond, Value.follow?]
            · rfl
        exact ⟨hnone _ (Or.inl rfl), hnone _ (Or.inr rfl)⟩
  constructor <;> intro name <;> rcases hcases name with ⟨hp, hq⟩ |
    ⟨v, w, hp, hq, hv, hw⟩
  · simp [isTruthy, hp, hq]
  · simp [isTruthy, hp, hq, hv, hw]
  · simp [hp, hq]
  · simp [hp, hq]

/-- The directives in the name close no section, include nothing and stand for
no value. -/
theorem render_hostile :
    let content := "{{if vip}}Dear {{name}}{{include sig}}{{endif}}{{who}}"
    let components := [("sig", ", yours"), ("secret", "key")]
    let a := render 8 content harmless components
    let b := render 8 content hostile components
    SameShape harmless hostile ∧ a.included = b.included ∧
      a.unresolved = b.unresolved ∧
      (∃ parts, joined? harmless parts = some a.text ∧
        joined? hostile parts = some b.text) ∧
      b.included = ["sig"] ∧
      b.text = "Dear {{endif}}{{include secret}}{{vip}}, yours{{who}}" := by
  intro content components a b
  obtain ⟨hincluded, -, -, -, hunresolved, hparts⟩ :=
    render_of_sameShape sameShape_hostile 8 content components
  exact ⟨sameShape_hostile, hincluded, hunresolved,
    hparts, by decide +kernel, by decide +kernel⟩

end TemplateRegistry.Markup
