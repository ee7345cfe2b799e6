import ChomskyChart.Unicode.WhiteSpace

/-!
# Words and lines

Cutting a text at white space and at line ends. A word is a longest run of other
characters, so no word is empty; a line may be.
-/
namespace ChomskyChart.Text

open Unicode (isWhiteSpace)

def wordsOf : List Char → List (List Char)
  | [] => []
  | c :: rest =>
    if isWhiteSpace c then wordsOf rest
    else
      (c :: rest.takeWhile (!isWhiteSpace ·)) :: wordsOf (rest.dropWhile (!isWhiteSpace ·))
termination_by cs => cs.length
decreasing_by
  · simp
  · exact Nat.lt_succ_of_le (List.dropWhile_sublist _).length_le

/-- The words of a text, in order. -/
def words (text : String) : List String :=
  (wordsOf text.toList).map String.ofList

/-- A text without the white space at its two ends. -/
def trim (cs : List Char) : List Char :=
  ((cs.dropWhile isWhiteSpace).reverse.dropWhile isWhiteSpace).reverse

def linesOf : List Char → List (List Char)
  | [] => []
  | c :: rest =>
    if c = '\n' then [] :: linesOf rest
    else
      match linesOf rest with
      | [] => [[c]]
      | line :: lines => (c :: line) :: lines

/-- The lines of a text. A line feed ends its line, and the last line may lack one. -/
def lines (text : String) : List String :=
  (linesOf text.toList).map String.ofList

end ChomskyChart.Text
