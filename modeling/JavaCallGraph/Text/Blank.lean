/-!
# Blank characters

The characters of the White_Space property, and what it means to strip them from the ends of a
text. Texts of types and annotations are read with this class; what may stand between the tokens of a
source text is a class of its own.

* `isBlank` — the class, as a decidable test on characters.
* `trimStart`, `trimEnd`, `trim` — stripping blanks from character lists.
* `trimText` — the same on strings.
-/

namespace JavaCallGraph.Text

/-- The code points of the White_Space property. -/
def isBlank (c : Char) : Bool :=
  let n := c.toNat
  (9 ≤ n && n ≤ 13) || n == 0x20 || n == 0x85 || n == 0xA0 || n == 0x1680 ||
    (0x2000 ≤ n && n ≤ 0x200A) || n == 0x2028 || n == 0x2029 || n == 0x202F || n == 0x205F ||
    n == 0x3000

def trimStart (cs : List Char) : List Char := cs.dropWhile isBlank

def trimEnd (cs : List Char) : List Char := (cs.reverse.dropWhile isBlank).reverse

def trim (cs : List Char) : List Char := trimEnd (trimStart cs)

def trimText (s : String) : String := String.ofList (trim s.toList)

end JavaCallGraph.Text
