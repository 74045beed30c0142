import Montage.Text.CharSet

/-!
# Blank characters

The characters that separate words and that trimming removes: the Unicode white space, with the
four separator controls U+001C to U+001F and without the zero-width space.
-/

namespace Montage

def CharSet.blank : CharSet := .ofRanges [
  (0x9, 0xD), (0x1C, 0x20), (0x85, 0x85), (0xA0, 0xA0), (0x1680, 0x1680), (0x2000, 0x200A),
  (0x2028, 0x2029), (0x202F, 0x202F), (0x205F, 0x205F), (0x3000, 0x3000)]

def isBlank (c : Char) : Bool := CharSet.blank.contains c

def trimBlanks (cs : List Char) : List Char :=
  ((cs.dropWhile isBlank).reverse.dropWhile isBlank).reverse

end Montage
