import TemplateRegistry.Address.Punycode
import TemplateRegistry.Text.Direction
import TemplateRegistry.Text.Joining
import TemplateRegistry.Text.Shape
import TemplateRegistry.Text.Variant
/-!
# Labels of names

A name is made of labels between full stops.  A label with letters beyond ASCII
is written as it is or in ASCII after a mark, and must be one that a reader can
take for no other.

A reader of URLs accepts such a name by the rules for international domain names
(IDNA, in the form that browsers follow), and refuses an address whose host
breaks them as an invalid international domain name.  This module decides which
names those are.  The five steps of the rules have a module each: variants are
spelled out (`Text.Variant`), letters are composed (`Text.Composition`), labels
in ASCII are decoded (`Address.Punycode`), and joiners (`Text.Joining`) and
directions (`Text.Direction`) are checked.

* `labels?` — the labels of a name, if all of them can be used together;
* `fold` — a name with variants spelled out and letters composed, the form in
  which names are compared;
* `isForbidden` — the characters that no label may have.
-/

namespace TemplateRegistry.Address

/-- The pieces of a text between the occurrences of a mark. -/
def pieces (mark : Char) (s : List Char) : List (List Char) :=
  Text.splitWhen (fun c => c = mark) s

/-- A mark that divides a URL. -/
def isDivider (c : Char) : Bool :=
  "\t\n\r #/:<>?@[\\]^|".toList.contains c || c = '\x00'

/-- The characters that look like a blank with a mark or like text with a full
stop, and those that describe or replace others, as ranges. -/
def misleading : List (Nat × Nat) :=
  [(0xA8, 0xA8), (0xAF, 0xAF), (0xB4, 0xB4), (0xB8, 0xB8), (0x2D8, 0x2DD),
   (0x37A, 0x37A), (0x384, 0x385), (0x1FBD, 0x1FBD), (0x1FBF, 0x1FC1),
   (0x1FCD, 0x1FCF), (0x1FDD, 0x1FDF), (0x1FED, 0x1FEE), (0x1FFD, 0x1FFE),
   (0x2017, 0x2017), (0x2024, 0x2026), (0x203E, 0x203E), (0x2488, 0x249B),
   (0x2FF0, 0x2FFF), (0x309B, 0x309C), (0x31EF, 0x31EF), (0x33C2, 0x33C2),
   (0x33C7, 0x33C7), (0x33D8, 0x33D8), (0xFC5E, 0xFC63), (0xFDFA, 0xFDFB),
   (0xFE12, 0xFE12), (0xFE19, 0xFE19), (0xFE30, 0xFE30), (0xFE49, 0xFE4C),
   (0xFE52, 0xFE52), (0xFE70, 0xFE70), (0xFE72, 0xFE72), (0xFE74, 0xFE76),
   (0xFE78, 0xFE78), (0xFE7A, 0xFE7A), (0xFE7C, 0xFE7C), (0xFE7E, 0xFE7E),
   (0xFFE3, 0xFFE3), (0xFFFC, 0xFFFD), (0x1F100, 0x1F100)]

/-- A character that no label may have. -/
def isForbidden (c : Char) : Bool :=
  isDivider c || c = '%' || (Text.isShapeless c && !Text.isJoiner c) ||
    Text.inRanges misleading c

/-- A name with variants spelled out and letters composed. -/
def fold (name : List Char) : List Char :=
  Text.composed (Text.foldName name)

/-- The longest label with letters beyond ASCII. -/
def longestLabel : Nat := 1000

/-- The longest label in ASCII that stands for another, without its mark. -/
def longestCode : Nat := 2000

/-- Whether a label starts with no mark, has no joiner that means nothing, and
is not too long. -/
def isReadable (label : List Char) : Bool :=
  !label.head?.any Text.isMark && Text.joinersFit label &&
    (label.length ≤ longestLabel || label.all fun c => c.toNat < 0x80)

/-- Whether a label is in the form in which labels are compared. -/
def isFolded (label : List Char) : Bool :=
  label.all (fun c => !Text.isVariant c && !isForbidden c) &&
    Text.composed label = label

/-- The label that a text in ASCII stands for.  It has a letter beyond ASCII. -/
def decodeLabel? (code : List Char) : Option (List Char) :=
  if code.isEmpty || code.getLast? = some '-' || longestCode < code.length ||
      !code.all fun c => c.toNat < 0x80 then none
  else (Punycode.decode? code).filter isFolded

/-- The letters of a label, if it can be used. -/
def label? (label : List Char) : Option (List Char) :=
  match label with
  | 'x' :: 'n' :: '-' :: '-' :: code => (decodeLabel? code).filter isReadable
  | _ => if label.any isForbidden then none else (some label).filter isReadable

/-- The labels of a name, if all of them can be used together: where one runs
from right to left, each keeps to its direction. -/
def labels? (name : List Char) : Option (List (List Char)) := do
  let labels ← (pieces '.' name).mapM label?
  if labels.any Text.hasRightward && !labels.all Text.keepsDirection then none
  else return labels

end TemplateRegistry.Address
