import TemplateRegistry.Markup.Directive
/-!
# Conditional sections

`if … else … endif` keeps one of its two branches.  A closing bound closes the
innermost section still open, and the first `else` in a section starts its
second branch.  Every other bound is plain text: a second `else`, an `else` or
`endif` outside of any section, and the bounds of a section that is never
closed.

First the bounds are found, with their places in the text.  Then they are
paired, by a stack of the sections still open.  At last the text is gone through
by ranges: the range of a closed section gives the chosen one of its branches,
and everything between sections is taken over as it is.

* `boundsOf`, `pairing` — the bounds of a text, and which of them belong
  together;
* `keepBranches?` — the text of a range, or nothing if places were out of order
  or out of range;
* `resolveSections` — the text with one branch kept of each section.
-/

namespace TemplateRegistry.Markup

/-- A bound of a section, with the places where its tag starts and stops. -/
structure Bound where
  control : Control
  start : Nat
  stop : Nat
  deriving DecidableEq

/-- The bounds among pieces, the first of which starts at a place. -/
def boundsFrom (place : Nat) : List Piece → List Bound
  | [] => []
  | .char _ :: rest => boundsFrom (place + 1) rest
  | .tag body :: rest =>
    let stop := place + (writeTag body).length
    match control? body with
    | some control => ⟨control, place, stop⟩ :: boundsFrom stop rest
    | none => boundsFrom stop rest

/-- The bounds of a text. -/
def boundsOf (s : List Char) : List Bound :=
  boundsFrom 0 (pieces s)

/-- What belongs to the opening bound of a closed section, by number among the
bounds of the text: its `else`, if it has one, and its closing bound. -/
structure Closure where
  otherwise : Option Nat
  closing : Nat
  deriving DecidableEq

/-- A section still open: the numbers of its opening bound and of its `else` so
far. -/
structure Opened where
  opening : Nat
  otherwise : Option Nat
  deriving DecidableEq

/-- Bounds paired so far. -/
structure Pairing where
  /-- For each bound, what belongs to it if it opens a closed section. -/
  closures : List (Option Closure)
  /-- The sections still open, innermost first. -/
  opened : List Opened

namespace Pairing

/-- Pair one more bound, the one with a given number. -/
def read (p : Pairing) (number : Nat) : Control → Pairing
  | .opening _ => { p with opened := ⟨number, none⟩ :: p.opened }
  | .otherwise =>
    match p.opened with
    | ⟨opening, none⟩ :: rest =>
      { p with opened := ⟨opening, some number⟩ :: rest }
    | _ => p
  | .closing =>
    match p.opened with
    | [] => p
    | inner :: rest =>
      { closures :=
          p.closures.set inner.opening (some ⟨inner.otherwise, number⟩)
        opened := rest }

/-- Pair bounds, the first of which has a given number. -/
def readFrom (p : Pairing) (number : Nat) : List Bound → Pairing
  | [] => p
  | bound :: rest => readFrom (p.read number bound.control) (number + 1) rest

end Pairing

/-- The bounds of a text, paired. -/
def pairing (bounds : List Bound) : Pairing :=
  Pairing.readFrom ⟨List.replicate bounds.length none, []⟩ 0 bounds

/-- The part of a text between two places, if they are in order and within the
text. -/
def slice? (s : List Char) (start stop : Nat) : Option (List Char) :=
  if start ≤ stop ∧ stop ≤ s.length then some ((s.take stop).drop start)
  else none

/-- The numbers of the two bounds around the chosen branch of a section, if it
has that branch. -/
def Closure.branch (closure : Closure) (opening : Nat) (holds : Bool) :
    Option (Nat × Nat) :=
  match holds, closure.otherwise with
  | true, otherwise => some (opening, otherwise.getD closure.closing)
  | false, some otherwise => some (otherwise, closure.closing)
  | false, none => none

/-- The text from a place `start` to a place `stop`, with one branch kept of
each closed section that opens with a bound numbered from `number` up to `last`;
`holds` is the truth of parameters. -/
def keepBranches? (holds : String → Bool) (s : List Char) (bounds : List Bound)
    (closures : List (Option Closure)) (number last start stop : Nat) :
    Option (List Char) :=
  if number < last then
    match bounds[number]?, closures[number]? with
    | some ⟨.opening name, place, _⟩, some (some closure) =>
      let chosen? :=
        match closure.branch number (holds name) with
        | none => some []
        | some (left, right) =>
          if number ≤ left ∧ right ≤ last then do
            let after ← bounds[left]?
            let until_ ← bounds[right]?
            keepBranches? holds s bounds closures
              (left + 1) right after.stop until_.start
          else none
      let rest? :=
        if number ≤ closure.closing then do
          let closing ← bounds[closure.closing]?
          keepBranches? holds s bounds closures
            (closure.closing + 1) last closing.stop stop
        else none
      do
        let before ← slice? s start place
        let chosen ← chosen?
        let rest ← rest?
        return before ++ chosen ++ rest
    | some _, some _ =>
      keepBranches? holds s bounds closures (number + 1) last start stop
    | _, _ => none
  else slice? s start stop
termination_by last - number

/-- A text with one branch kept of each section, if all places are in order. -/
def resolveSections? (holds : String → Bool) (s : List Char) :
    Option (List Char) :=
  let bounds := boundsOf s
  keepBranches? holds s bounds (pairing bounds).closures 0 bounds.length 0
    s.length

/-- A text with one branch kept of each section. -/
def resolveSections (holds : String → Bool) (s : List Char) : List Char :=
  (resolveSections? holds s).getD s

end TemplateRegistry.Markup
