/-!
# Ranges of code points

A set of characters that a standard fixes is given by its code points, as ranges
in ascending order.  The sets of the modules about names in addresses, and of
those about quoted texts, are given so.

* `inRanges` — whether a character is in one of some ranges;
* `inStrides` — the same for ranges of which every second code point counts.
-/

namespace TemplateRegistry.Text

/-- Whether a character is in one of some ranges. -/
def inRanges (ranges : List (Nat × Nat)) (c : Char) : Bool :=
  ranges.any fun range => range.1 ≤ c.toNat && c.toNat ≤ range.2

/-- Whether a character is in one of some ranges, at an even distance from its
start. -/
def inStrides (ranges : List (Nat × Nat)) (c : Char) : Bool :=
  ranges.any fun range =>
    range.1 ≤ c.toNat && c.toNat ≤ range.2 && (c.toNat - range.1) % 2 = 0

end TemplateRegistry.Text
