/-!
# Ranges of characters

A character class given by the ranges of its code points.
-/

namespace ResourceTables.Text

/-- A character class: the first and last code point of each range. -/
abbrev CharRanges := List (Nat × Nat)

namespace CharRanges

/-- Whether the character lies in one of the ranges. -/
def contains (ranges : CharRanges) (c : Char) : Bool :=
  List.any ranges fun (first, last) => first ≤ c.toNat && c.toNat ≤ last

end CharRanges

end ResourceTables.Text
