/-!
# White space

Names given by a person or by the environment are read without the white space around them.
White space is the Unicode property `White_Space`, not the ASCII set.

- `isBlank`: the property itself.
- `trim`: a text without the white space at its two ends.
- `isAllBlank`: whether a text holds nothing else.
-/

namespace TraceTarget.Text

/-- The characters with the Unicode property `White_Space`. -/
def isBlank (c : Char) : Bool :=
  let n := c.toNat
  (0x09 ≤ n && n ≤ 0x0d) || n == 0x20 || n == 0x85 || n == 0xa0 || n == 0x1680 ||
    (0x2000 ≤ n && n ≤ 0x200a) || n == 0x2028 || n == 0x2029 || n == 0x202f || n == 0x205f ||
    n == 0x3000

/-- A text without the white space at its two ends. -/
def trim (cs : List Char) : List Char :=
  ((cs.dropWhile isBlank).reverse.dropWhile isBlank).reverse

/-- A text that holds nothing but white space; the empty text is one. -/
def isAllBlank (cs : List Char) : Bool :=
  cs.all isBlank

/-- The ASCII letters `A` to `Z` in lower case; every other character stays as it is. -/
def lower (cs : List Char) : List Char :=
  cs.map Char.toLower

end TraceTarget.Text
