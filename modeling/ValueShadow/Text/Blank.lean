import ValueShadow.Text.Ranges

/-!
# Blank characters

The characters with the property White_Space. They separate the tokens of a type and are what a
text may consist of and still count as blank.
-/

namespace ValueShadow.Text

/-- The code points with the property White_Space, as ascending closed ranges. -/
def blankRanges : List (Nat × Nat) :=
  [(0x9, 0xD), (0x20, 0x20), (0x85, 0x85), (0xA0, 0xA0), (0x1680, 0x1680), (0x2000, 0x200A),
   (0x2028, 0x2029), (0x202F, 0x202F), (0x205F, 0x205F), (0x3000, 0x3000)]

/-- Whether the character has the property White_Space. -/
def isBlankChar (c : Char) : Bool :=
  inRanges c.toNat blankRanges

/-- Whether the text is empty or consists of blank characters only. -/
def isBlank (text : String) : Bool :=
  text.toList.all isBlankChar

end ValueShadow.Text
