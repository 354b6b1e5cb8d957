import ClassGraft.Text.Basic

/-!
# Blank characters

The characters with the property White_Space. Listings are cut into words at
them, and the ends of a line or of a level are cleared of them. The control
characters from 1C to 1F, the zero width space and the byte order mark are not
blank.
-/

namespace ClassGraft.Text

/-- Does the character have the property White_Space? -/
def isBlank (c : Char) : Bool :=
  (0x09 ≤ c.toNat && c.toNat ≤ 0x0D) || c.toNat == 0x20 || c.toNat == 0x85
    || c.toNat == 0xA0 || c.toNat == 0x1680 || (0x2000 ≤ c.toNat && c.toNat ≤ 0x200A)
    || c.toNat == 0x2028 || c.toNat == 0x2029 || c.toNat == 0x202F || c.toNat == 0x205F
    || c.toNat == 0x3000

/-- The text without the blanks at its two ends. -/
def trim (t : Text) : Text :=
  ((t.dropWhile isBlank).reverse.dropWhile isBlank).reverse

end ClassGraft.Text
