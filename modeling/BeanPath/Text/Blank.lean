/-!
# White space

The characters with the `White_Space` property of the Unicode standard, and trimming.  A text is
trimmed by dropping the longest run of white space at either end.
-/

namespace BeanPath
namespace Text

/-- White space, by the `White_Space` property: the ASCII blanks from tab to carriage return,
the space, the next-line control, the no-break space and the blanks of the general punctuation. -/
def isBlank (c : Char) : Bool :=
  let n := c.toNat
  (9 ≤ n && n ≤ 13) || n == 0x20 || n == 0x85 || n == 0xA0 || n == 0x1680
    || (0x2000 ≤ n && n ≤ 0x200A) || n == 0x2028 || n == 0x2029 || n == 0x202F
    || n == 0x205F || n == 0x3000

/-- The characters without the white space before the first other one. -/
def trimLeft (cs : List Char) : List Char := cs.dropWhile isBlank

/-- The characters without the white space at either end. -/
def trim (cs : List Char) : List Char := (trimLeft (trimLeft cs).reverse).reverse

/-- A text that starts with no white space keeps its start. -/
theorem trimLeft_of_head {c : Char} {cs : List Char} (h : isBlank c = false) :
    trimLeft (c :: cs) = c :: cs := by
  simp [trimLeft, h]

/-- The text without the white space at either end. -/
def trimmed (s : String) : String := String.ofList (trim s.toList)

end Text
end BeanPath
