/-!
# Blank characters and words

The blank characters are those of the Unicode `White_Space` property. A text's words are its
maximal runs of non-blank characters; `normalize` joins them with one space, and `trim` drops
the blanks at both ends.
-/

namespace CodeGraph.Text

def isBlank (c : Char) : Bool :=
  let n := c.toNat
  (0x09 ≤ n && n ≤ 0x0D) || n == 0x20 || n == 0x85 || n == 0xA0 || n == 0x1680 ||
    (0x2000 ≤ n && n ≤ 0x200A) || n == 0x2028 || n == 0x2029 || n == 0x202F ||
    n == 0x205F || n == 0x3000

def wordsFrom : List Char → List Char → List (List Char)
  | [], acc => if acc.isEmpty then [] else [acc.reverse]
  | c :: cs, acc =>
    if isBlank c then
      if acc.isEmpty then wordsFrom cs [] else acc.reverse :: wordsFrom cs []
    else wordsFrom cs (c :: acc)

def words (cs : List Char) : List (List Char) :=
  wordsFrom cs []

def wordsOf (s : String) : List String :=
  (words s.toList).map String.ofList

/-- The words of a text joined by single spaces. -/
def normalize (s : String) : String :=
  " ".intercalate (wordsOf s)

def dropBlanks : List Char → List Char
  | [] => []
  | c :: cs => if isBlank c then dropBlanks cs else c :: cs

def trim (s : String) : String :=
  String.ofList (dropBlanks (dropBlanks s.toList).reverse).reverse

def trimEnd (s : String) : String :=
  String.ofList (dropBlanks s.toList.reverse).reverse

def trimStart (s : String) : String :=
  String.ofList (dropBlanks s.toList)

end CodeGraph.Text
