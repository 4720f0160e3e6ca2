import TemplateRegistry.Markup.Render
/-!
# Sections as trees

The sections of a text nest.  Read piece by piece with the sections still open
on a stack, the text falls into a forest: a closing bound closes the innermost
open section, the first `else` of the innermost open section starts its second
branch, and every other bound is text, the bounds of a section that is never
closed among them.  Keeping one branch of each section is then a recursion over
the forest, and has nothing to do with places.

The pass over the text works with numbers of bounds and with places instead.  It
gives the same: by what was paired, the bounds and places of each section nest
just as the forest does, so that no range is out of order or out of the text.

* `Node`, `sectionTree` — the forest of a text;
* `chosenAll`, `sourceAll` — the branches kept of a forest, and all its text;
* `Spans` — nodes that lie between two places and two numbers of bounds;
* `keepBranches?_of_spans` — the pass over a range gives the branches kept of
  the nodes it spans;
* `Tracks` — the stack of the reader and the stack of the pairing, side by side;
* `sections_eq_tree` — the pass over a text gives the branches kept of its
  forest.
-/

namespace TemplateRegistry.Markup

/-- A part of a text: plain text, or a closed section with its bounds and its
one or two branches. -/
inductive Node
  | text (source : List Char)
  | only (name : String) (opening : List Char) (first : List Node)
      (closing : List Char)
  | either (name : String) (opening : List Char) (first : List Node)
      (otherwise : List Char) (second : List Node) (closing : List Char)

section Forest
variable (holds : String → Bool)

mutual

/-- What is kept of a node: plain text, and the first branch of a section whose
parameter is true or else its second, if it has one. -/
def Node.chosen : Node → List Char
  | .text source => source
  | .only name _ first _ => if holds name then chosenAll first else []
  | .either name _ first _ second _ =>
    if holds name then chosenAll first else chosenAll second

/-- What is kept of nodes. -/
def chosenAll : List Node → List Char
  | [] => []
  | node :: rest => node.chosen ++ chosenAll rest

end

mutual

/-- The text a node was read from. -/
def Node.source : Node → List Char
  | .text source => source
  | .only _ opening first closing => opening ++ sourceAll first ++ closing
  | .either _ opening first otherwise second closing =>
    opening ++ sourceAll first ++ otherwise ++ sourceAll second ++ closing

/-- The text nodes were read from. -/
def sourceAll : List Node → List Char
  | [] => []
  | node :: rest => node.source ++ sourceAll rest

end

end Forest

/-- A section still open: its opening bound, the nodes of its first branch, and
its `else` with the nodes after it, if there was one. -/
structure Frame where
  name : String
  opening : List Char
  first : List Node
  second : Option (List Char × List Node)

namespace Frame

/-- One more run of nodes, in the branch being read. -/
def add (frame : Frame) (nodes : List Node) : Frame :=
  match frame.second with
  | none => { frame with first := frame.first ++ nodes }
  | some (otherwise, second) =>
    { frame with second := some (otherwise, second ++ nodes) }

/-- The section, closed. -/
def close (frame : Frame) (closing : List Char) : Node :=
  match frame.second with
  | none => .only frame.name frame.opening frame.first closing
  | some (otherwise, second) =>
    .either frame.name frame.opening frame.first otherwise second closing

/-- The nodes of a section that is never closed: its bounds are plain text. -/
def unclosed (frame : Frame) : List Node :=
  .text frame.opening :: frame.first ++
    match frame.second with
    | none => []
    | some (otherwise, second) => .text otherwise :: second

end Frame

/-- A text read so far: the nodes outside of the sections still open, and those
sections, innermost first. -/
structure Reading where
  outside : List Node
  frames : List Frame

namespace Reading

/-- One more run of nodes, at the end of what was read. -/
def add (r : Reading) (nodes : List Node) : Reading :=
  match r.frames with
  | [] => { r with outside := r.outside ++ nodes }
  | frame :: outer => { r with frames := frame.add nodes :: outer }

/-- Read a bound, written as a tag. -/
def readControl (r : Reading) (tag : List Char) : Control → Reading
  | .opening name => { r with frames := ⟨name, tag, [], none⟩ :: r.frames }
  | .otherwise =>
    match r.frames with
    | ⟨name, opening, first, none⟩ :: outer =>
      { r with frames := ⟨name, opening, first, some (tag, [])⟩ :: outer }
    | _ => r.add [.text tag]
  | .closing =>
    match r.frames with
    | [] => r.add [.text tag]
    | frame :: outer =>
      ({ r with frames := outer } : Reading).add [frame.close tag]

/-- Read a piece: a tag that bounds a section, or else plain text. -/
def read (r : Reading) : Piece → Reading
  | .char c => r.add [.text [c]]
  | .tag body =>
    match control? body with
    | some control => r.readControl (writeTag body) control
    | none => r.add [.text (writeTag body)]

/-- The nodes of all that was read, no section being closed any more. -/
def finish (outside : List Node) : List Frame → List Node
  | [] => outside
  | frame :: outer => finish outside outer ++ frame.unclosed

end Reading

/-- The forest of a text. -/
def sectionTree (s : List Char) : List Node :=
  let r := (pieces s).foldl Reading.read ⟨[], []⟩
  Reading.finish r.outside r.frames

/-! ## Places -/

/-- The part of a text between two places. -/
def cut (s : List Char) (start stop : Nat) : List Char :=
  (s.take stop).drop start

theorem cut_self (s : List Char) (a : Nat) : cut s a a = [] := by
  simp [cut]

/-- Two parts of a text that meet are one. -/
theorem cut_append (s : List Char) {a b c : Nat} (hab : a ≤ b) (hbc : b ≤ c) :
    cut s a b ++ cut s b c = cut s a c := by
  have hlen : c - a = (b - a) + (c - b) := by omega
  have hdrop : s.drop b = (s.drop a).drop (b - a) := by
    rw [List.drop_drop, Nat.add_sub_cancel' hab]
  simp only [cut, List.drop_take]
  rw [hlen, List.take_add, hdrop]

/-- A slice in order and within the text is taken. -/
theorem slice?_eq_cut {s : List Char} {a b : Nat} (hab : a ≤ b)
    (hb : b ≤ s.length) :
    slice? s a b = some (cut s a b) := by
  simp [slice?, cut, hab, hb]

/-- The part of a text from a place on that starts with a given text. -/
theorem cut_of_drop {s t rest : List Char} {a : Nat}
    (h : s.drop a = t ++ rest) :
    cut s a (a + t.length) = t := by
  rw [cut, List.drop_take, h, Nat.add_sub_cancel_left, List.take_left]

/-! ## Nodes between bounds -/

section Spans
variable (s : List Char) (bounds : List Bound)

/-- The nodes that lie between two places of a text, and the numbers of the
bounds between these places: from the first number up to the second.  A bound is
paired as its node says, and lies where its node does. -/
inductive Spans (closures : List (Option Closure)) :
    Nat → Nat → Nat → Nat → List Node → Prop
  | nil (i a : Nat) : Spans closures i i a a []
  | plain {i j a b c : Nat} {rest : List Node} (hab : a ≤ b)
      (hrest : Spans closures i j b c rest) :
      Spans closures i j a c (.text (cut s a b) :: rest)
  | stray {i j a b c : Nat} {control : Control} {rest : List Node}
      (hbound : bounds[i]? = some ⟨control, a, b⟩)
      (hclosure : closures[i]? = some none)
      (hab : a ≤ b) (hrest : Spans closures (i + 1) j b c rest) :
      Spans closures i j a c (.text (cut s a b) :: rest)
  | only {i m j a b c d e : Nat} {name : String} {control : Control}
      {first rest : List Node}
      (hopening : bounds[i]? = some ⟨.opening name, a, b⟩)
      (hclosure : closures[i]? = some (some ⟨none, m⟩)) (hab : a ≤ b)
      (hfirst : Spans closures (i + 1) m b c first)
      (hclosing : bounds[m]? = some ⟨control, c, d⟩) (hcd : c ≤ d)
      (hrest : Spans closures (m + 1) j d e rest) :
      Spans closures i j a e (.only name (cut s a b) first (cut s c d) :: rest)
  | either {i k m j a b c d e f g : Nat} {name : String} {middle last : Control}
      {first second rest : List Node}
      (hopening : bounds[i]? = some ⟨.opening name, a, b⟩)
      (hclosure : closures[i]? = some (some ⟨some k, m⟩)) (hab : a ≤ b)
      (hfirst : Spans closures (i + 1) k b c first)
      (hmiddle : bounds[k]? = some ⟨middle, c, d⟩) (hcd : c ≤ d)
      (hsecond : Spans closures (k + 1) m d e second)
      (hclosing : bounds[m]? = some ⟨last, e, f⟩) (hef : e ≤ f)
      (hrest : Spans closures (m + 1) j f g rest) :
      Spans closures i j a g
        (.either name (cut s a b) first (cut s c d) second (cut s e f) :: rest)

end Spans

section Ranges
variable {s : List Char} {bounds : List Bound}
  {closures closures' : List (Option Closure)} {i j k a b c : Nat}
  {xs ys nodes : List Node}

namespace Spans

/-- Nodes lie between numbers and places in order. -/
theorem le (h : Spans s bounds closures i j a b nodes) : i ≤ j ∧ a ≤ b := by
  induction h with
  | nil i a => exact ⟨Nat.le_refl i, Nat.le_refl a⟩
  | plain hab _ ih => exact ⟨ih.1, Nat.le_trans hab ih.2⟩
  | stray _ _ hab _ ih => omega
  | only _ _ hab _ _ hcd _ ihfirst ihrest => omega
  | either _ _ hab _ _ hcd _ _ hef _ ihfirst ihsecond ihrest => omega

/-- Nodes before nodes. -/
theorem append (hx : Spans s bounds closures i j a b xs)
    (hy : Spans s bounds closures j k b c ys) :
    Spans s bounds closures i k a c (xs ++ ys) := by
  induction hx with
  | nil i a => exact hy
  | plain hab _ ih => exact .plain hab (ih hy)
  | stray hbound hclosure hab _ ih => exact .stray hbound hclosure hab (ih hy)
  | only hopening hclosure hab hfirst hclosing hcd _ _ ihrest =>
      exact .only hopening hclosure hab hfirst hclosing hcd (ihrest hy)
  | either hopening hclosure hab hfirst hmiddle hcd hsecond hclosing hef _ _ _
      ihrest =>
      exact .either hopening hclosure hab hfirst hmiddle hcd hsecond hclosing
        hef (ihrest hy)

/-- What belongs to bounds of other numbers is not looked at. -/
theorem congr (h : Spans s bounds closures i j a b nodes)
    (heq : ∀ n, i ≤ n → n < j → closures'[n]? = closures[n]?) :
    Spans s bounds closures' i j a b nodes := by
  induction h with
  | nil i a => exact .nil i a
  | plain hab _ ih => exact .plain hab (ih heq)
  | @stray i j a b c control rest hbound hclosure hab hrest ih =>
      have hle := hrest.le
      refine .stray hbound ?_ hab (ih fun n hn hnj => heq n (by omega) hnj)
      rw [heq i (Nat.le_refl i) (by omega), hclosure]
  | @only i m j a b c d e name control first rest hopening hclosure hab hfirst
      hclosing hcd hrest ihfirst ihrest =>
      have hle := hfirst.le
      have hle' := hrest.le
      refine .only hopening ?_ hab
        (ihfirst fun n hn hnm => heq n (by omega) (by omega)) hclosing hcd
        (ihrest fun n hn hnj => heq n (by omega) hnj)
      rw [heq i (Nat.le_refl i) (by omega), hclosure]
  | @either i k m j a b c d e f g name middle last first second rest hopening
      hclosure hab hfirst hmiddle hcd hsecond hclosing hef hrest ihfirst
      ihsecond ihrest =>
      have hle := hfirst.le
      have hle' := hsecond.le
      have hle'' := hrest.le
      refine .either hopening ?_ hab
        (ihfirst fun n hn hnk => heq n (by omega) (by omega)) hmiddle hcd
        (ihsecond fun n hn hnm => heq n (by omega) (by omega)) hclosing hef
        (ihrest fun n hn hnj => heq n (by omega) hnj)
      rw [heq i (Nat.le_refl i) (by omega), hclosure]

/-- Nodes are read from all the text between their places. -/
theorem sourceAll_eq (h : Spans s bounds closures i j a b nodes) :
    sourceAll nodes = cut s a b := by
  induction h with
  | nil i a => rw [sourceAll, cut_self]
  | plain hab hrest ih =>
      rw [sourceAll, Node.source, ih, cut_append s hab hrest.le.2]
  | stray _ _ hab hrest ih =>
      rw [sourceAll, Node.source, ih, cut_append s hab hrest.le.2]
  | only _ _ hab hfirst _ hcd hrest ihfirst ihrest =>
      have hbc := hfirst.le.2
      have hde := hrest.le.2
      rw [sourceAll, Node.source, ihfirst, ihrest, cut_append s hab hbc,
        cut_append s (Nat.le_trans hab hbc) hcd, cut_append s (by omega) hde]
  | either _ _ hab hfirst _ hcd hsecond _ hef hrest ihfirst ihsecond ihrest =>
      have hbc := hfirst.le.2
      have hde := hsecond.le.2
      have hfg := hrest.le.2
      rw [sourceAll, Node.source, ihfirst, ihsecond, ihrest,
        cut_append s hab hbc, cut_append s (by omega) hcd,
        cut_append s (by omega) hde, cut_append s (by omega) hef,
        cut_append s (by omega) hfg]

end Spans

/-! ## The pass over a range -/

variable {holds : String → Bool} {n last cursor stop : Nat}

/-- A range without bounds is taken over. -/
theorem keepBranches?_done (hac : cursor ≤ stop) (hstop : stop ≤ s.length) :
    keepBranches? holds s bounds closures n n cursor stop =
      some (cut s cursor stop) := by
  rw [keepBranches?, if_neg (Nat.lt_irrefl n), slice?_eq_cut hac hstop]

/-- A bound that opens no closed section is passed over. -/
theorem keepBranches?_stray {bound : Bound} (hlt : n < last)
    (hbound : bounds[n]? = some bound) (hclosure : closures[n]? = some none) :
    keepBranches? holds s bounds closures n last cursor stop =
      keepBranches? holds s bounds closures (n + 1) last cursor stop := by
  rw [keepBranches?, if_pos hlt]
  simp [hbound, hclosure]

section Closed
variable {name : String} {closure : Closure} {after until_ closing : Bound}
variable {left right : Nat} {chosen rest : List Char}

/-- **A closed section with the chosen branch.**  The text before it is taken
over, then comes that branch, then what follows the closing bound. -/
theorem keepBranches?_kept (hlt : n < last)
    (hopening : bounds[n]? = some ⟨.opening name, a, b⟩)
    (hclosure : closures[n]? = some (some closure))
    (hbranch : closure.branch n (holds name) = some (left, right))
    (hleft : n ≤ left) (hright : right ≤ last)
    (hafter : bounds[left]? = some after)
    (huntil : bounds[right]? = some until_)
    (hchosen : keepBranches? holds s bounds closures
        (left + 1) right after.stop until_.start =
      some chosen)
    (hm : n ≤ closure.closing)
    (hclosing : bounds[closure.closing]? = some closing)
    (hrest : keepBranches? holds s bounds closures
        (closure.closing + 1) last closing.stop stop =
      some rest)
    (hca : cursor ≤ a) (ha : a ≤ s.length) :
    keepBranches? holds s bounds closures n last cursor stop =
      some (cut s cursor a ++ chosen ++ rest) := by
  rw [keepBranches?, if_pos hlt]
  simp [hopening, hclosure, hbranch, hleft, hright, hafter, huntil, hchosen, hm,
    hclosing, hrest, slice?_eq_cut hca ha]

/-- **A closed section without the chosen branch.**  The text before it is taken
over, then comes what follows the closing bound. -/
theorem keepBranches?_dropped (hlt : n < last)
    (hopening : bounds[n]? = some ⟨.opening name, a, b⟩)
    (hclosure : closures[n]? = some (some closure))
    (hbranch : closure.branch n (holds name) = none)
    (hm : n ≤ closure.closing)
    (hclosing : bounds[closure.closing]? = some closing)
    (hrest : keepBranches? holds s bounds closures
        (closure.closing + 1) last closing.stop stop =
      some rest)
    (hca : cursor ≤ a) (ha : a ≤ s.length) :
    keepBranches? holds s bounds closures n last cursor stop =
      some (cut s cursor a ++ rest) := by
  rw [keepBranches?, if_pos hlt]
  simp [hopening, hclosure, hbranch, hm, hclosing, hrest, slice?_eq_cut hca ha]

end Closed

/-- **The pass over spanned nodes.**  Started before them, it takes over the
text up to them and keeps their branches; it never leaves the text. -/
theorem keepBranches?_of_spans (holds : String → Bool)
    (h : Spans s bounds closures i j a b nodes) (hca : cursor ≤ a)
    (hb : b ≤ s.length) :
    keepBranches? holds s bounds closures i j cursor b =
      some (cut s cursor a ++ chosenAll holds nodes) := by
  -- Plain text and stray bounds leave the cursor behind; a closed section moves
  -- it past its closing bound, and starts a range of its own for its branch.
  induction h generalizing cursor with
  | nil i a => rw [keepBranches?_done hca hb, chosenAll, List.append_nil]
  | plain hab hrest ih =>
      rw [ih (Nat.le_trans hca hab) hb, chosenAll, Node.chosen,
        ← List.append_assoc, cut_append s hca hab]
  | stray hbound hclosure hab hrest ih =>
      have hle := hrest.le
      rw [keepBranches?_stray (by omega) hbound hclosure,
        ih (Nat.le_trans hca hab) hb, chosenAll, Node.chosen,
        ← List.append_assoc, cut_append s hca hab]
  | @only i m j a b c d e name control first rest hopening hclosure hab hfirst
      hclosing hcd hrest ihfirst ihrest =>
      have hle := hfirst.le
      have hle' := hrest.le
      have hafter := ihrest (Nat.le_refl d) hb
      rw [cut_self, List.nil_append] at hafter
      cases htrue : holds name with
      | true =>
          have hchosen := ihfirst (Nat.le_refl b) (by omega)
          rw [cut_self, List.nil_append] at hchosen
          rw [keepBranches?_kept (by omega) hopening hclosure
            (by rw [htrue]; rfl) (Nat.le_refl i) (by omega) hopening hclosing
            hchosen (by simp only; omega) hclosing hafter hca (by omega)]
          simp [chosenAll, Node.chosen, htrue]
      | false =>
          rw [keepBranches?_dropped (by omega) hopening hclosure
            (by rw [htrue]; rfl) (by simp only; omega) hclosing hafter hca
            (by omega)]
          simp [chosenAll, Node.chosen, htrue]
  | @either i k m j a b c d e f g name middle last first second rest hopening
      hclosure hab hfirst hmiddle hcd hsecond hclosing hef hrest ihfirst
      ihsecond ihrest =>
      have hle := hfirst.le
      have hle' := hsecond.le
      have hle'' := hrest.le
      have hafter := ihrest (Nat.le_refl f) hb
      rw [cut_self, List.nil_append] at hafter
      cases htrue : holds name with
      | true =>
          have hchosen := ihfirst (Nat.le_refl b) (by omega)
          rw [cut_self, List.nil_append] at hchosen
          rw [keepBranches?_kept (by omega) hopening hclosure
            (by rw [htrue]; rfl) (Nat.le_refl i) (by omega) hopening hmiddle
            hchosen (by simp only; omega) hclosing hafter hca (by omega)]
          simp [chosenAll, Node.chosen, htrue]
      | false =>
          have hchosen := ihsecond (Nat.le_refl d) (by omega)
          rw [cut_self, List.nil_append] at hchosen
          rw [keepBranches?_kept (by omega) hopening hclosure
            (by rw [htrue]; rfl) (by omega) (by omega) hmiddle hclosing
            hchosen (by simp only; omega) hclosing hafter hca (by omega)]
          simp [chosenAll, Node.chosen, htrue]

end Ranges

/-! ## The two stacks -/

/-- The stack of the reader beside the stack of the pairing, when all bounds
below a number and all text up to a place were read: every open section has its
nodes between its own bounds, none of which is paired yet. -/
inductive Tracks (s : List Char) (bounds : List Bound)
    (closures : List (Option Closure)) :
    Nat → Nat → Reading → List Opened → Prop
  | outside {i a : Nat} {outside : List Node}
      (hspans : Spans s bounds closures 0 i 0 a outside) :
      Tracks s bounds closures i a ⟨outside, []⟩ []
  | first {k i a b c : Nat} {name : String} {outside first : List Node}
      {frames : List Frame} {opened : List Opened}
      (houter : Tracks s bounds closures k b ⟨outside, frames⟩ opened)
      (hopening : bounds[k]? = some ⟨.opening name, b, c⟩)
      (hclosure : closures[k]? = some none)
      (hbc : b ≤ c) (hspans : Spans s bounds closures (k + 1) i c a first) :
      Tracks s bounds closures i a ⟨outside,
          ⟨name, cut s b c, first, none⟩ :: frames⟩
        (⟨k, none⟩ :: opened)
  | second {k m i a b c d e : Nat} {name : String} {middle : Control}
      {outside first second : List Node} {frames : List Frame}
      {opened : List Opened}
      (houter : Tracks s bounds closures k b ⟨outside, frames⟩ opened)
      (hopening : bounds[k]? = some ⟨.opening name, b, c⟩)
      (hclosure : closures[k]? = some none)
      (hbc : b ≤ c) (hfirst : Spans s bounds closures (k + 1) m c d first)
      (hmiddle : bounds[m]? = some ⟨middle, d, e⟩)
      (hunpaired : closures[m]? = some none)
      (hde : d ≤ e) (hspans : Spans s bounds closures (m + 1) i e a second) :
      Tracks s bounds closures i a
        ⟨outside, ⟨name, cut s b c, first, some (cut s d e, second)⟩ :: frames⟩
        (⟨k, some m⟩ :: opened)

section Stacks
variable {s : List Char} {bounds : List Bound}
  {closures closures' : List (Option Closure)} {i j a b c : Nat} {r : Reading}
  {opened : List Opened} {nodes : List Node}

namespace Tracks

/-- More nodes go to the branch being read. -/
theorem add (h : Tracks s bounds closures i a r opened)
    (hnodes : Spans s bounds closures i j a b nodes) :
    Tracks s bounds closures j b (r.add nodes) opened := by
  cases h with
  | outside hspans => exact .outside (hspans.append hnodes)
  | first houter hopening hclosure hbc hspans =>
      exact .first houter hopening hclosure hbc (hspans.append hnodes)
  | second houter hopening hclosure hbc hfirst hmiddle hunpaired hde hspans =>
      exact .second houter hopening hclosure hbc hfirst hmiddle hunpaired hde
        (hspans.append hnodes)

/-- Plain text is read. -/
theorem text (h : Tracks s bounds closures i a r opened) (hab : a ≤ b) :
    Tracks s bounds closures i b (r.add [.text (cut s a b)]) opened :=
  h.add (.plain hab (.nil i b))

/-- A bound that belongs to no section is read as plain text. -/
theorem stray {control : Control} (h : Tracks s bounds closures i a r opened)
    (hbound : bounds[i]? = some ⟨control, a, b⟩)
    (hclosure : closures[i]? = some none) (hab : a ≤ b) :
    Tracks s bounds closures (i + 1) b (r.add [.text (cut s a b)]) opened :=
  h.add (.stray hbound hclosure hab (.nil (i + 1) b))

/-- What belongs to bounds not read yet is not looked at. -/
theorem congr (h : Tracks s bounds closures i a r opened)
    (heq : ∀ n, n < i → closures'[n]? = closures[n]?) :
    Tracks s bounds closures' i a r opened := by
  induction h with
  | outside hspans => exact .outside (hspans.congr fun n _ hn => heq n hn)
  | @first k i a b c name outside first frames opened houter hopening hclosure
      hbc hspans ih =>
      have hle := hspans.le
      refine .first (ih fun n hn => heq n (by omega)) hopening ?_ hbc
        (hspans.congr fun n _ hn => heq n hn)
      rw [heq k (by omega), hclosure]
  | @second k m i a b c d e name middle outside first second frames opened
      houter hopening hclosure hbc hfirst hmiddle hunpaired hde hspans ih =>
      have hle := hfirst.le
      have hle' := hspans.le
      refine .second (ih fun n hn => heq n (by omega)) hopening ?_ hbc
        (hfirst.congr fun n _ hn => heq n (by omega)) hmiddle ?_ hde
        (hspans.congr fun n _ hn => heq n hn)
      · rw [heq k (by omega), hclosure]
      · rw [heq m (by omega), hunpaired]

/-- A section still open was opened by a bound read before. -/
theorem opening_lt {innermost : Opened}
    (h : Tracks s bounds closures i a r (innermost :: opened)) :
    innermost.opening < i := by
  cases h with
  | first _ _ _ _ hspans => exact hspans.le.1
  | second _ _ _ _ hfirst _ _ _ hspans =>
      have hle := hfirst.le
      have hle' := hspans.le
      simp only
      omega

/-- A bound pairs bounds read before it only. -/
theorem closures_read_of_le {control : Control} {p : Pairing} {n : Nat}
    (h : Tracks s bounds p.closures i a r p.opened) (hn : i ≤ n) :
    (p.read i control).closures[n]? = p.closures[n]? := by
  obtain ⟨closures, opened⟩ := p
  cases control with
  | opening name => rfl
  | otherwise =>
      simp only [Pairing.read]
      split <;> rfl
  | closing =>
      cases opened with
      | nil => rfl
      | cons innermost opened =>
          have hlt := h.opening_lt
          exact List.getElem?_set_ne (by omega)

/-- At the end the bounds of the sections still open are plain text. -/
theorem finish (h : Tracks s bounds closures i a r opened) :
    Spans s bounds closures 0 i 0 a (Reading.finish r.outside r.frames) := by
  induction h with
  | outside hspans => exact hspans
  | @first k i a b c name outside first frames opened houter hopening hclosure
      hbc hspans ih =>
      have hfirst : Spans s bounds closures (k + 1) i c a (first ++ []) := by
        rw [List.append_nil]
        exact hspans
      exact ih.append (.stray hopening hclosure hbc hfirst)
  | second houter hopening hclosure hbc hfirst hmiddle hunpaired hde
      hspans ih =>
      exact ih.append (.stray hopening hclosure hbc
        (hfirst.append (.stray hmiddle hunpaired hde hspans)))

/-- **One bound.**  Reader and pairing take the same step: both open a section,
give it its second branch, close it, or leave the bound as plain text. -/
theorem readControl {control : Control} {p : Pairing}
    (h : Tracks s bounds p.closures i a r p.opened)
    (hbound : bounds[i]? = some ⟨control, a, b⟩)
    (hclosure : p.closures[i]? = some none) (hab : a ≤ b) :
    Tracks s bounds (p.read i control).closures (i + 1) b
      (r.readControl (cut s a b) control) (p.read i control).opened := by
  obtain ⟨closures, opened⟩ := p
  cases control with
  | opening name => exact .first h hbound hclosure hab (.nil (i + 1) b)
  | otherwise =>
      cases h with
      | outside hspans =>
          exact (Tracks.outside hspans).stray hbound hclosure hab
      | first houter hopening hunclosed hbc hspans =>
          exact .second houter hopening hunclosed hbc hspans hbound hclosure hab
            (.nil (i + 1) b)
      | second houter hopening hunclosed hbc hfirst hmiddle hunpaired hde
          hspans =>
          exact (Tracks.second houter hopening hunclosed hbc hfirst hmiddle
            hunpaired hde hspans).stray hbound hclosure hab
  | closing =>
      cases h with
      | outside hspans =>
          exact (Tracks.outside hspans).stray hbound hclosure hab
      | @first k _ _ b₀ c name outside first frames opened houter hopening
          hunclosed hbc hspans =>
          -- Only what belongs to the opening bound changes, and nothing read
          -- before the section or in its branch looks at that.
          have hset : (closures.set k (some ⟨none, i⟩))[k]? =
              some (some ⟨none, i⟩) := by
            rw [List.getElem?_set_self
              (List.getElem?_eq_some_iff.mp hunclosed).1]
          have hother : ∀ n, n ≠ k →
              (closures.set k (some ⟨none, i⟩))[n]? = closures[n]? :=
            fun n hn => List.getElem?_set_ne (Ne.symm hn)
          have houter' := houter.congr fun n hn => hother n (by omega)
          have hfirst' := hspans.congr fun n hn _ => hother n (by omega)
          exact houter'.add
            (.only hopening hset hbc hfirst' hbound hab (.nil (i + 1) b))
      | @second k m _ _ b₀ c d e name middle outside first second frames opened
          houter hopening hunclosed hbc hfirst hmiddle hunpaired hde hspans =>
          have hle := hfirst.le
          have hset : (closures.set k (some ⟨some m, i⟩))[k]? =
              some (some ⟨some m, i⟩) := by
            rw [List.getElem?_set_self
              (List.getElem?_eq_some_iff.mp hunclosed).1]
          have hother : ∀ n, n ≠ k →
              (closures.set k (some ⟨some m, i⟩))[n]? = closures[n]? :=
            fun n hn => List.getElem?_set_ne (Ne.symm hn)
          have houter' := houter.congr fun n hn => hother n (by omega)
          have hfirst' := hfirst.congr fun n hn _ => hother n (by omega)
          have hsecond' := hspans.congr fun n hn _ => hother n (by omega)
          exact houter'.add (.either hopening hset hbc hfirst' hmiddle hde
            hsecond' hbound hab (.nil (i + 1) b))

end Tracks

/-- **All pieces.**  If the rest of a text and the rest of its bounds belong to
some pieces, reader and pairing stay side by side to the end of both. -/
theorem tracks_read_all {ps : List Piece} {p : Pairing}
    (htext : s.drop a = sourceOf ps) (ha : a ≤ s.length)
    (hbounds : bounds.drop i = boundsFrom a ps) (hi : i ≤ bounds.length)
    (hunpaired : ∀ n, i ≤ n → n < bounds.length → p.closures[n]? = some none)
    (h : Tracks s bounds p.closures i a r p.opened) :
    Tracks s bounds (p.readFrom i (boundsFrom a ps)).closures bounds.length
      s.length (ps.foldl Reading.read r)
      (p.readFrom i (boundsFrom a ps)).opened := by
  induction ps generalizing a i p r with
  | nil =>
      have hend : s.length ≤ a := List.drop_eq_nil_iff.mp htext
      have hlast : bounds.length ≤ i := List.drop_eq_nil_iff.mp hbounds
      obtain rfl : a = s.length := by omega
      obtain rfl : i = bounds.length := by omega
      exact h
  | cons piece ps ih =>
      have hdrop : s.drop a = piece.source ++ sourceOf ps := by
        rw [htext, sourceOf, List.flatMap_cons, ← sourceOf]
      have hcut : cut s a (a + piece.source.length) = piece.source :=
        cut_of_drop hdrop
      have hrest : s.drop (a + piece.source.length) = sourceOf ps := by
        rw [← List.drop_drop, hdrop, List.drop_left]
      have hstop : a + piece.source.length ≤ s.length := by
        have hlen := congrArg List.length hdrop
        rw [List.length_drop, List.length_append] at hlen
        omega
      have hplain := h.text (Nat.le_add_right a piece.source.length)
      rw [hcut] at hplain
      cases piece with
      | char c => exact ih hrest hstop hbounds hi hunpaired hplain
      | tag body =>
          rw [List.foldl_cons, Reading.read]
          cases hcontrol : control? body with
          | none =>
              simp only [boundsFrom, hcontrol] at hbounds ⊢
              exact ih hrest hstop hbounds hi hunpaired hplain
          | some control =>
              simp only [boundsFrom, hcontrol, Pairing.readFrom] at hbounds ⊢
              have hbound :
                  bounds[i]? = some
                    ⟨control, a, a + (writeTag body).length⟩ := by
                rw [← List.head?_drop, hbounds, List.head?_cons]
              have hlt : i < bounds.length :=
                (List.getElem?_eq_some_iff.mp hbound).1
              have hnext :
                  bounds.drop (i + 1) =
                    boundsFrom (a + (writeTag body).length) ps := by
                rw [← List.drop_drop, hbounds, List.drop_one, List.tail_cons]
              have hread :=
                h.readControl hbound (hunpaired i (Nat.le_refl i) hlt)
                (Nat.le_add_right a (writeTag body).length)
              simp only [Piece.source] at hcut
              rw [hcut] at hread
              refine ih hrest hstop hnext hlt (fun n hn hnlt => ?_) hread
              rw [h.closures_read_of_le (by omega), hunpaired n (by omega) hnlt]

/-- The forest of a text spans all of it, as its bounds are paired. -/
theorem spans_sectionTree (s : List Char) :
    Spans s (boundsOf s) (pairing (boundsOf s)).closures 0
      (boundsOf s).length 0 s.length (sectionTree s) := by
  have htext : s.drop 0 = sourceOf (pieces s) := (source_pieces s).symm
  have hunpaired : ∀ n, 0 ≤ n → n < (boundsOf s).length →
      (List.replicate (boundsOf s).length (none : Option Closure))[n]? =
        some none :=
    fun n _ hn => by rw [List.getElem?_replicate, if_pos hn]
  have htracks :=
    tracks_read_all (p := ⟨List.replicate (boundsOf s).length none, []⟩) htext
    (Nat.zero_le _)
      (show (boundsOf s).drop 0 = boundsFrom 0 (pieces s) from rfl)
      (Nat.zero_le _)
    hunpaired (.outside (.nil 0 0))
  exact htracks.finish

/-- **The pass over a text**, whatever is true: it takes no slice out of order
or out of the text, and gives the branches kept of the forest. -/
theorem resolveSections?_eq_chosenAll (holds : String → Bool) (s : List Char) :
    resolveSections? holds s = some (chosenAll holds (sectionTree s)) := by
  have hpass :=
    keepBranches?_of_spans holds (spans_sectionTree s) (Nat.le_refl 0)
    (Nat.le_refl s.length)
  rw [cut_self, List.nil_append] at hpass
  exact hpass

end Stacks

/-- **Sections mean what they say.**  Under any parameters the pass over any
text stays within it and gives what a recursion over its forest gives: the
chosen branch of each closed section, and all else of the text unchanged and in
order. -/
theorem sections_eq_tree (params : Parameters) (s : List Char) :
    resolveSections? (isTruthy params) s =
      some (chosenAll (isTruthy params) (sectionTree s)) ∧
      resolveSections (isTruthy params) s =
        chosenAll (isTruthy params) (sectionTree s) ∧
      sourceAll (sectionTree s) = s := by
  have hpass := resolveSections?_eq_chosenAll (isTruthy params) s
  refine ⟨hpass, ?_, ?_⟩
  · rw [resolveSections, hpass, Option.getD_some]
  · rw [(spans_sectionTree s).sourceAll_eq, cut, List.take_length,
      List.drop_zero]

/-- A stray `else` and a section that is never closed are plain text. -/
example :
    chosenAll (· = "a")
      (sectionTree "x{{if a}}1{{else}}2{{endif}}{{else}}{{if b}}y".toList) =
    "x1{{else}}{{if b}}y".toList := by decide +kernel

end TemplateRegistry.Markup
