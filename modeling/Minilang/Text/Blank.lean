import Minilang.Text.Runs

/-!
# Blank characters

A blank is a character with the Unicode property `White_Space`. Blanks separate
the words of a program, and they are what is trimmed from the end of a shown
line.
-/

namespace Minilang.Text

/-- The runs of characters with the property `White_Space`. -/
def whiteSpace : Runs :=
  [(0x9, 0xd), (0x20, 0x20), (0x85, 0x85), (0xa0, 0xa0), (0x1680, 0x1680),
    (0x2000, 0x200a), (0x2028, 0x2029), (0x202f, 0x202f), (0x205f, 0x205f),
    (0x3000, 0x3000)]

def isBlank (c : Char) : Bool :=
  whiteSpace.contains c

end Minilang.Text
