/-!
# WorkQuery.Text.Blank

Blank characters, trimming, and the words between blanks.
-/

namespace WorkQuery
namespace Text

/-- A character with the Unicode property White_Space. -/
def isBlank (c : Char) : Bool :=
  let n := c.toNat
  (0x9 ≤ n && n ≤ 0xD) || n == 0x20 || n == 0x85 || n == 0xA0 || n == 0x1680
    || (0x2000 ≤ n && n ≤ 0x200A) || n == 0x2028 || n == 0x2029 || n == 0x202F || n == 0x205F
    || n == 0x3000

/-- Without the characters at the end that satisfy `p`. -/
def dropEndWhile (p : Char → Bool) (cs : List Char) : List Char :=
  (cs.reverse.dropWhile p).reverse

/-- Without the characters at both ends that satisfy `p`. -/
def trimWhere (p : Char → Bool) (cs : List Char) : List Char :=
  dropEndWhile p (cs.dropWhile p)

/-- Without the blanks at both ends. -/
def trimChars (cs : List Char) : List Char := trimWhere isBlank cs

/-- Without the blanks at both ends. -/
def trim (s : String) : String := String.ofList (trimChars s.toList)

/-- Whether nothing but blanks is in the text. -/
def isBlankText (s : String) : Bool := s.toList.all isBlank

/-- The pieces between the characters that satisfy `p`; there is always one more than those. -/
def splitWhere (p : Char → Bool) : List Char → List (List Char)
  | [] => [[]]
  | c :: rest =>
    if p c then [] :: splitWhere p rest
    else
      match splitWhere p rest with
      | piece :: pieces => (c :: piece) :: pieces
      | [] => [[c]]

/-- The pieces that are not empty. -/
def splitNonempty (p : Char → Bool) (cs : List Char) : List (List Char) :=
  (splitWhere p cs).filter fun piece => !piece.isEmpty

/-- The words of a text: its maximal runs without blanks. -/
def words (s : String) : List String := (splitNonempty isBlank s.toList).map String.ofList

def joinChars (sep : List Char) : List (List Char) → List Char
  | [] => []
  | [piece] => piece
  | piece :: pieces => piece ++ sep ++ joinChars sep pieces

/-- Texts written one after another with `sep` between them. -/
def join (sep : String) (pieces : List String) : String :=
  String.ofList (joinChars sep.toList (pieces.map String.toList))

/-- Whether `part` begins the text; then what follows it. -/
def dropPrefix? (part : List Char) (cs : List Char) : Option (List Char) :=
  match part, cs with
  | [], rest => some rest
  | p :: part, c :: cs => if p = c then dropPrefix? part cs else none
  | _ :: _, [] => none

/-- Whether `part` occurs in the text as one block. -/
def containsBlock (part : List Char) : List Char → Bool
  | [] => part.isEmpty
  | c :: cs => (dropPrefix? part (c :: cs)).isSome || containsBlock part cs

end Text
end WorkQuery
