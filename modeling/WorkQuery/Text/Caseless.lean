/-!
# WorkQuery.Text.Caseless

Comparison that takes the letters A to Z for a to z, and no other letters for each other.
-/

namespace WorkQuery
namespace Text

/-- Whether two texts differ at most in the case of ASCII letters. -/
def sameIgnoringCase (a b : String) : Bool :=
  a.toList.map Char.toLower == b.toList.map Char.toLower

/-- The capital of a character, where that is one ASCII letter: besides a to z only the dotless i
and the long s have one. Any other character stands for itself. -/
def asciiCapital (c : Char) : Char :=
  if c.toNat == 0x131 then 'I' else if c.toNat == 0x17F then 'S' else c.toUpper

end Text
end WorkQuery
