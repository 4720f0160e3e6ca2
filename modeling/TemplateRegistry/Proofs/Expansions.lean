import TemplateRegistry.Markup.Render
/-!
# Expansions, include by include

The expansion of an include ends in one of four ways: the include goes round in
a cycle, it lies beyond the include depth, there is no such component, or the
component is put in and its text is expanded in turn.  The expansion of a text
is that of its includes one after another, with the text between them taken over
as it is.

* `expandInclude_induction` — the four ways, as an induction over includes;
* `expand_induction` — an induction over the includes of a text;
* `expand_field` — what a text lists is what its includes list, in order.
-/

namespace TemplateRegistry.Markup

variable {components : Components} {depth : Nat} {path : List String}
  {name : String}

namespace Expansion

/-- What is left of an include that goes round in a cycle. -/
def looped (chain : List String) : Expansion :=
  { literal (cycleMarker chain).toList with cycles := [chain] }

/-- What is left of an include beyond the include depth. -/
def tooDeep (name : String) : Expansion :=
  { literal (depthMarker name).toList with depthExceeded := [name] }

/-- What is left of an include of a component that does not exist. -/
def absent (name : String) : Expansion :=
  { literal (notFoundMarker name).toList with missing := [name] }

/-- The expansion of a component's text, put in for an include of it. -/
def entered (name : String) (inner : Expansion) : Expansion :=
  { inner with included := name :: inner.included }

end Expansion

open Expansion

/-! ### One include -/

/-- A component within itself is a cycle. -/
theorem expandInclude_of_mem (h : name ∈ path) (depth : Nat) :
    expandInclude components depth path name = looped (path ++ [name]) := by
  unfold expandInclude
  rw [if_pos h]
  rfl

/-- With no depth left an include is cut off. -/
theorem expandInclude_zero (h : name ∉ path) :
    expandInclude components 0 path name = tooDeep name := by
  unfold expandInclude
  rw [if_neg h]
  rfl

/-- A component that is not there is missing. -/
theorem expandInclude_of_absent (h : name ∉ path)
    (htext : components.text? name = none) (depth : Nat) :
    expandInclude components (depth + 1) path name = absent name := by
  unfold expandInclude
  rw [if_neg h]
  simp only [htext]
  rfl

/-- The expansion of a component that is put in is that of its text. -/
theorem expandInclude_of_text? {content : String} (h : name ∉ path)
    (htext : components.text? name = some content) (depth : Nat) :
    expandInclude components (depth + 1) path name =
      entered name
        (expand components depth (path ++ [name]) content.toList) := by
  unfold expandInclude
  rw [if_neg h]
  simp only [htext]
  rfl

/-- **The four ways of an include.**  What holds of each of them, for a
component that is put in given that it holds of the includes of its text, holds
of the expansion of every include. -/
theorem expandInclude_induction
    {motive : Nat → List String → String → Expansion → Prop}
    (hlooped : ∀ depth path name, name ∈ path →
      motive depth path name (looped (path ++ [name])))
    (hdeep : ∀ path name, name ∉ path → motive 0 path name (tooDeep name))
    (habsent : ∀ depth path name, name ∉ path → components.text? name = none →
      motive (depth + 1) path name (absent name))
    (hentered : ∀ depth path name content, name ∉ path →
      components.text? name = some content →
      (∀ nested ∈ includesOf content.toList,
        motive depth (path ++ [name]) nested
        (expandInclude components depth (path ++ [name]) nested)) →
      motive (depth + 1) path name
        (entered name
          (expand components depth (path ++ [name]) content.toList)))
    (depth : Nat) (path : List String) (name : String) :
    motive depth path name (expandInclude components depth path name) := by
  induction depth generalizing path name with
  | zero =>
      by_cases hmem : name ∈ path
      · rw [expandInclude_of_mem hmem]
        exact hlooped 0 path name hmem
      · rw [expandInclude_zero hmem]
        exact hdeep path name hmem
  | succ depth ih =>
      by_cases hmem : name ∈ path
      · rw [expandInclude_of_mem hmem]
        exact hlooped (depth + 1) path name hmem
      · cases htext : components.text? name with
        | none =>
            rw [expandInclude_of_absent hmem htext]
            exact habsent depth path name hmem htext
        | some content =>
            rw [expandInclude_of_text? hmem htext]
            exact hentered depth path name content hmem htext fun nested _ =>
              ih _ nested

/-! ### The includes of a text -/

/-- **The includes of a text.**  What holds of no text at all, and is kept by
text put in front and by the expansion of an include put in front, holds of the
expansion of a text and of its includes. -/
theorem expand_induction {motive : List String → Expansion → Prop}
    {s : List Char} (hnil : motive [] (literal []))
    (hliteral : ∀ text names e, motive names e →
      motive names ((literal text).append e))
    (hinclude : ∀ name ∈ includesOf s, ∀ names e, motive names e →
      motive (name :: names)
      ((expandInclude components depth path name).append e)) :
    motive (includesOf s) (expand components depth path s) := by
  have hpieces : ∀ ps : List Piece,
      (∀ name ∈ tagsOf include? ps, name ∈ includesOf s) →
      motive (tagsOf include? ps)
        (concat (ps.map (expandPiece components depth path))) := by
    intro ps hsub
    induction ps with
    | nil => exact hnil
    | cons piece rest ih =>
        cases piece with
        | char c => exact hliteral [c] _ _ (ih hsub)
        | tag body =>
            cases hbody : include? body with
            | none =>
                have htags :
                    tagsOf include? (.tag body :: rest) =
                      tagsOf include? rest := by
                  simp [tagsOf, hbody]
                have hpiece : expandPiece components depth path (.tag body) =
                    literal (writeTag body) := by simp [expandPiece, hbody]
                rw [htags] at hsub ⊢
                rw [List.map_cons, hpiece]
                exact hliteral _ _ _ (ih hsub)
            | some name =>
                have htags : tagsOf include? (.tag body :: rest) =
                    name :: tagsOf include? rest := by simp [tagsOf, hbody]
                have hpiece : expandPiece components depth path (.tag body) =
                    expandInclude components depth path name := by
                  simp [expandPiece, hbody]
                rw [htags] at hsub ⊢
                rw [List.map_cons, hpiece]
                exact hinclude name (hsub name List.mem_cons_self) _ _
                  (ih fun other hother =>
                    hsub other (List.mem_cons_of_mem _ hother))
  exact hpieces (pieces s) fun _ hname => hname

/-- Texts with the same includes' expansions expand alike. -/
theorem expand_eq_of_includes {a b : Components} {depth depth' : Nat}
    {s : List Char} (h : ∀ name ∈ includesOf s,
      expandInclude a depth path name = expandInclude b depth' path name) :
    expand a depth path s = expand b depth' path s := by
  unfold expand
  congr 1
  apply List.map_congr_left
  intro piece hpiece
  cases piece with
  | char c => rfl
  | tag body =>
      cases hinclude : include? body with
      | none => simp [expandPiece, hinclude]
      | some name =>
          have hname : name ∈ includesOf s :=
            List.mem_filterMap.mpr ⟨.tag body, hpiece, hinclude⟩
          simpa [expandPiece, hinclude] using h name hname

/-! ### What is listed -/

/-- **What a text lists.**  A list that literal text adds nothing to, and that
one expansion after another joins, is joined from those of the includes. -/
theorem expand_field {α : Type} {field : Expansion → List α}
    (hliteral : ∀ text, field (literal text) = [])
    (happend : ∀ a b : Expansion, field (a.append b) = field a ++ field b)
    (components : Components) (depth : Nat) (path : List String)
    (s : List Char) :
    field (expand components depth path s) =
      (includesOf s).flatMap fun name =>
        field (expandInclude components depth path name) := by
  apply expand_induction (motive := fun names e => field e =
    names.flatMap fun name => field (expandInclude components depth path name))
  · exact hliteral []
  · intro text names e ih
    rw [happend, hliteral, List.nil_append, ih]
  · intro name _ names e ih
    rw [happend, ih, List.flatMap_cons]

section Fields
variable {s : List Char}

/-- What a text includes is what its includes include, in order. -/
theorem included_expand : (expand components depth path s).included =
    (includesOf s).flatMap fun name =>
      (expandInclude components depth path name).included :=
  expand_field (fun _ => rfl) (fun _ _ => rfl) components depth path s

/-- What a text misses is what its includes miss. -/
theorem missing_expand : (expand components depth path s).missing =
    (includesOf s).flatMap fun name =>
      (expandInclude components depth path name).missing :=
  expand_field (fun _ => rfl) (fun _ _ => rfl) components depth path s

/-- The cycles of a text are those of its includes. -/
theorem cycles_expand : (expand components depth path s).cycles =
    (includesOf s).flatMap fun name =>
      (expandInclude components depth path name).cycles :=
  expand_field (fun _ => rfl) (fun _ _ => rfl) components depth path s

/-- What is cut off from a text is cut off from its includes. -/
theorem depthExceeded_expand : (expand components depth path s).depthExceeded =
    (includesOf s).flatMap fun name =>
      (expandInclude components depth path name).depthExceeded :=
  expand_field (fun _ => rfl) (fun _ _ => rfl) components depth path s

end Fields

end TemplateRegistry.Markup
