import ClassGraft.Text.Basic

/-!
# Decimal numerals

Reading unsigned numbers: one or more decimal digits, with a plus sign allowed
in front. Nothing else counts, no blanks and no minus sign.
-/

namespace ClassGraft.Text

/-- The number that the digits spell, first digit most significant. -/
def digitsValue (t : Text) : Nat := t.foldl (fun n c => 10 * n + (c.toNat - 0x30)) 0

/-- The number spelled by one or more digits. -/
def digits? (t : Text) : Option Nat :=
  if t ≠ [] ∧ t.all Char.isDigit then some (digitsValue t) else none

/-- The number spelled by one or more digits behind an optional plus sign. -/
def unsigned? : Text → Option Nat
  | [] => none
  | c :: t => if c = '+' then digits? t else digits? (c :: t)

end ClassGraft.Text
