import ContainerDesk.Text.Basic

/-!
# Blanks

The code points that count as blank: the white space of the Unicode character
database together with the four information separators `0x1C` to `0x1F`.  The
zero width space and the byte order mark are not among them.  Trimming removes
blanks from both ends of a text.
-/

namespace ContainerDesk

def blankRanges : CodeRanges :=
  [
    (0x9, 0xD), (0x1C, 0x20), (0x85, 0x85), (0xA0, 0xA0), (0x1680, 0x1680), (0x2000, 0x200A),
    (0x2028, 0x2029), (0x202F, 0x202F), (0x205F, 0x205F), (0x3000, 0x3000)
  ]

def CodePoint.isBlank (c : CodePoint) : Bool :=
  blankRanges.covers c

namespace Text

def trim (t : Text) : Text :=
  ((t.dropWhile CodePoint.isBlank).reverse.dropWhile CodePoint.isBlank).reverse

end Text

end ContainerDesk
