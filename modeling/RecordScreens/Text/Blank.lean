/-!
# Blanks

White space as a property of characters, and texts without it at their ends.
-/

namespace RecordScreens.Text

/-- White space: the ASCII controls 9 to 13, the spaces and the line and paragraph separators. -/
def isBlank (c : Char) : Bool :=
  let n := c.toNat
  (9 ≤ n && n ≤ 13) || n == 0x20 || n == 0x85 || n == 0xA0 || n == 0x1680 ||
    (0x2000 ≤ n && n ≤ 0x200A) || n == 0x2028 || n == 0x2029 || n == 0x202F || n == 0x205F || n == 0x3000

/-- Without the blanks at the end. -/
def dropTrailing (drop : Char → Bool) (cs : List Char) : List Char :=
  (cs.reverse.dropWhile drop).reverse

/-- A text without the blanks at its end. -/
def trimEnd (s : String) : String := String.ofList (dropTrailing isBlank s.toList)

/-- A text without the blanks at its start and end. -/
def trim (s : String) : String := String.ofList (dropTrailing isBlank (s.toList.dropWhile isBlank))

/-- A text without the given character at its end. -/
def trimEndOf (drop : Char) (s : String) : String := String.ofList (dropTrailing (· == drop) s.toList)

end RecordScreens.Text
