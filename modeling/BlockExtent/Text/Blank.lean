/-!
# Fields between blanks

Text is cut at the characters of the Unicode property White_Space. A carriage return is one of
them, so a line that ends in one has the fields of the line without it.
-/

namespace BlockExtent.Text

/-- The characters of the property White_Space. -/
def isBlank (c : Char) : Bool :=
  let n := c.toNat
  (0x9 ≤ n && n ≤ 0xD) || n == 0x20 || n == 0x85 || n == 0xA0 || n == 0x1680 ||
    (0x2000 ≤ n && n ≤ 0x200A) || n == 0x2028 || n == 0x2029 || n == 0x202F || n == 0x205F ||
    n == 0x3000

/-- The fields of a text: its non-empty parts between blanks. -/
def fields (text : List Char) : List (List Char) :=
  (text.splitOnP isBlank).filter fun part => !part.isEmpty

end BlockExtent.Text
