/-!
# WorkQuery.Text.CharRange

Membership of a character in a table of inclusive code point ranges. The tables hold the ranges
above ASCII; each class decides ASCII itself, without a table.
-/

namespace WorkQuery
namespace Text

/-- Whether the character's code point lies in one of the inclusive ranges. -/
def inRanges (ranges : List (Nat × Nat)) (c : Char) : Bool :=
  ranges.any fun range => range.1 ≤ c.toNat && c.toNat ≤ range.2

def isAscii (c : Char) : Bool := c.toNat < 0x80

end Text
end WorkQuery
