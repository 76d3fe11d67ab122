/-!
Contract: blank characters and the removal of blanks around a text.

Owns: `isBlank`, the characters with the Unicode property White_Space, and `trim`.

Does not own: the four blanks that may stand between the parts of a document.
-/

namespace NovelEngine.Text

/-- Characters with the Unicode property White_Space. -/
def isBlank (character : Char) : Bool :=
  let code := character.toNat
  (9 ≤ code && code ≤ 13) || code == 0x20 || code == 0x85 || code == 0xA0 || code == 0x1680
    || (0x2000 ≤ code && code ≤ 0x200A) || code == 0x2028 || code == 0x2029
    || code == 0x202F || code == 0x205F || code == 0x3000

/-- The characters left after dropping blanks at both ends. -/
def trim (text : String) : List Char :=
  ((text.toList.dropWhile isBlank).reverse.dropWhile isBlank).reverse

end NovelEngine.Text
