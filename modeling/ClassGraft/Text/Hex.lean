import ClassGraft.Text.Basic

/-!
# Hexadecimal numerals

Numbers inside generated names are written in lower case hexadecimal without
leading zeros, some of them padded on the left.
-/

namespace ClassGraft.Text

/-- The digit for a value below sixteen. -/
def hexDigit (d : Nat) : Char :=
  if d < 10 then Char.ofNat (0x30 + d) else Char.ofNat (0x57 + d)

/-- The numeral of a number to the base sixteen, with a digit for each value
below sixteen, without leading zeros. -/
def base16 (digit : Nat → Char) (n : Nat) : Text :=
  if n < 16 then [digit n] else base16 digit (n / 16) ++ [digit (n % 16)]

/-- The hexadecimal numeral of a number; zero is `0`. -/
def hex (n : Nat) : Text := base16 hexDigit n

/-- The text with as many copies of `fill` in front as bring it to `width`
characters. A longer text stays as it is. -/
def padLeft (width : Nat) (fill : Char) (t : Text) : Text :=
  List.replicate (width - t.length) fill ++ t

theorem length_padLeft (width : Nat) (fill : Char) (t : Text) :
    (padLeft width fill t).length = max width t.length := by
  rw [padLeft, List.length_append, List.length_replicate]
  omega

/-- The value of a hexadecimal digit, in lower case. -/
def hexValue? (c : Char) : Option Nat :=
  if '0' ≤ c ∧ c ≤ '9' then some (c.toNat - 0x30)
  else if 'a' ≤ c ∧ c ≤ 'f' then some (c.toNat - 0x57)
  else none

/-- Each digit reads back as its value. -/
theorem hexValue?_hexDigit {d : Nat} (h : d < 16) : hexValue? (hexDigit d) = some d := by
  have all : ∀ d : Fin 16, hexValue? (hexDigit d) = some d.val := by decide
  exact all ⟨d, h⟩

/-- A number below sixteen has one digit. -/
theorem base16_of_lt (digit : Nat → Char) {n : Nat} (h : n < 16) : base16 digit n = [digit n] := by
  rw [base16, if_pos h]

theorem base16_ne_nil (digit : Nat → Char) (n : Nat) : base16 digit n ≠ [] := by
  rw [base16]
  split <;> simp

/-- Each character of a numeral is one of its digits. -/
theorem exists_digit_of_mem_base16 {digit : Nat → Char} {n : Nat} {c : Char}
    (h : c ∈ base16 digit n) : ∃ d, d < 16 ∧ c = digit d := by
  fun_induction base16 digit n with
  | case1 n hlt => exact ⟨n, hlt, by simpa using h⟩
  | case2 n _ ih =>
      rcases List.mem_append.mp h with hfront | hlast
      · exact ih hfront
      · exact ⟨n % 16, Nat.mod_lt _ (by decide), by simpa using hlast⟩

/-- The length of a numeral does not depend on what its digits look like. -/
theorem length_base16 (digit digit' : Nat → Char) (n : Nat) :
    (base16 digit n).length = (base16 digit' n).length := by
  fun_induction base16 digit n with
  | case1 n h =>
    rw [base16_of_lt digit' h]
    rfl
  | case2 n h ih =>
    rw [base16.eq_1 digit' n, if_neg h, List.length_append, List.length_append, ih]
    rfl

end ClassGraft.Text
