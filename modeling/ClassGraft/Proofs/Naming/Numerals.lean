import Mathlib.Data.List.Basic
import Mathlib.Data.List.Induction
import Mathlib.Tactic.Ring
import ClassGraft.Text.Hex

/-!
# Numerals to the base sixteen

A numeral is written with any sixteen digits, and it reads back as its number with the values of
these digits, also under leading zeros. It starts with a zero for zero alone, and this makes
numerals unique: digits that start with no zero are the numeral of the number that they stand
for.
-/

namespace ClassGraft.Text

/-! ## Reading back -/

/-- The number that digits to the base sixteen stand for. -/
def readBase16 (value : Char → Nat) (t : Text) : Nat := t.foldl (fun n c => 16 * n + value c) 0

/-- A numeral reads back as its number, if its digits read back as theirs. -/
theorem readBase16_base16 {digit : Nat → Char} {value : Char → Nat}
    (hdigit : ∀ d, d < 16 → value (digit d) = d) (n : Nat) :
    readBase16 value (base16 digit n) = n := by
  fun_induction base16 digit n with
  | case1 n hlt => simp [readBase16, hdigit n hlt]
  | case2 n _ ih =>
      have hlast : value (digit (n % 16)) = n % 16 := hdigit _ (Nat.mod_lt _ (by decide))
      rw [readBase16] at ih
      rw [readBase16, List.foldl_append, ih]
      show 16 * (n / 16) + value (digit (n % 16)) = n
      omega

/-- Leading zeros do not count. -/
theorem readBase16_padLeft {value : Char → Nat} {fill : Char} (hfill : value fill = 0)
    (width : Nat) (t : Text) : readBase16 value (padLeft width fill t) = readBase16 value t := by
  have hzeros : ∀ k, (List.replicate k fill).foldl (fun n c => 16 * n + value c) 0 = 0 := by
    intro k
    induction k with
    | zero => rfl
    | succ k ih => rw [List.replicate_succ, List.foldl_cons, hfill, ih]
  rw [padLeft, readBase16, List.foldl_append, hzeros]
  rfl

/-- To write a numeral with other digits is to change its digits. -/
theorem map_base16 {digit digit' : Nat → Char} {change : Char → Char}
    (h : ∀ d, d < 16 → change (digit d) = digit' d) (n : Nat) :
    (base16 digit n).map change = base16 digit' n := by
  fun_induction base16 digit n with
  | case1 n hlt => rw [base16_of_lt digit' hlt, List.map_singleton, h n hlt]
  | case2 n hge ih =>
      rw [base16.eq_1 digit' n, if_neg hge, List.map_append, ih, List.map_singleton,
        h (n % 16) (Nat.mod_lt _ (by decide))]

/-- A hexadecimal numeral reads back as its number. -/
theorem readBase16_hex (n : Nat) :
    readBase16 (fun c => (hexValue? c).getD 0) (hex n) = n := by
  refine readBase16_base16 ?_ n
  intro d hd
  rw [hexValue?_hexDigit hd]
  rfl

/-- So numbers have numerals of their own. -/
theorem hex_injective {m n : Nat} (h : hex m = hex n) : m = n := by
  rw [← readBase16_hex m, h, readBase16_hex]

/-- Also under leading zeros. -/
theorem readBase16_padLeft_hex (width n : Nat) :
    readBase16 (fun c => (hexValue? c).getD 0) (padLeft width '0' (hex n)) = n := by
  rw [readBase16_padLeft (by rfl), readBase16_hex]

theorem padLeft_hex_injective {width m n : Nat}
    (h : padLeft width '0' (hex m) = padLeft width '0' (hex n)) : m = n := by
  rw [← readBase16_padLeft_hex width m, h, readBase16_padLeft_hex]

/-- Digits stay what they are, if each is what is written for its value. -/
theorem map_digit_map_value {digit : Nat → Char} {value : Char → Nat} {t : Text}
    (h : ∀ c ∈ t, digit (value c) = c) : (t.map value).map digit = t := by
  rw [List.map_map]
  calc t.map (digit ∘ value)
    _ = t.map id := List.map_congr_left h
    _ = t := List.map_id t

/-! ## The first digit -/

/-- A number above zero has a numeral that starts with no zero. -/
theorem exists_base16_eq_cons (digit : Nat → Char) {n : Nat} (hn : 0 < n) :
    ∃ d rest, 0 < d ∧ d < 16 ∧ base16 digit n = digit d :: rest := by
  fun_induction base16 digit n with
  | case1 n hlt => exact ⟨n, [], hn, hlt, rfl⟩
  | case2 n hge ih =>
      obtain ⟨d, rest, hpos, hlt, hfront⟩ := ih (by omega)
      exact ⟨d, rest ++ [digit (n % 16)], hpos, hlt, by rw [hfront, List.cons_append]⟩

/-! ## Digits behind a number -/

/-- The number whose numeral is that of a number with more digits behind it. -/
def appendDigits (n : Nat) (digits : List Nat) : Nat := digits.foldl (fun n d => 16 * n + d) n

theorem appendDigits_eq (n : Nat) (digits : List Nat) :
    appendDigits n digits = n * 16 ^ digits.length + appendDigits 0 digits := by
  induction digits using List.reverseRecOn with
  | nil => simp [appendDigits]
  | append_singleton digits d ih =>
      simp only [appendDigits, List.foldl_append, List.foldl_cons, List.foldl_nil,
        List.length_append, List.length_singleton] at ih ⊢
      rw [ih, Nat.pow_succ]
      ring

theorem le_appendDigits (n : Nat) (digits : List Nat) : n ≤ appendDigits n digits := by
  rw [appendDigits_eq]
  exact Nat.le_add_right_of_le (Nat.le_mul_of_pos_right n (Nat.pow_pos (by decide)))

/-- The digits stand behind its numeral. -/
theorem base16_appendDigits (digit : Nat → Char) {n : Nat} (hn : 0 < n) {digits : List Nat}
    (h : ∀ d ∈ digits, d < 16) :
    base16 digit (appendDigits n digits) = base16 digit n ++ digits.map digit := by
  induction digits generalizing n with
  | nil => simp [appendDigits]
  | cons d digits ih =>
      have hd : d < 16 := h d (by simp)
      have hfirst : base16 digit (16 * n + d) = base16 digit n ++ [digit d] := by
        rw [base16, if_neg (by omega), show (16 * n + d) / 16 = n by omega,
          show (16 * n + d) % 16 = d by omega]
      show base16 digit (appendDigits (16 * n + d) digits) = _
      rw [ih (by omega) fun e he => h e (by simp [he]), hfirst]
      simp

/-- Digits with nothing in front of them are a numeral, if the first one is not zero. -/
theorem base16_appendDigits_zero (digit : Nat → Char) {d : Nat} (hd : 0 < d) {digits : List Nat}
    (h : ∀ x ∈ d :: digits, x < 16) :
    base16 digit (appendDigits 0 (d :: digits)) = (d :: digits).map digit := by
  have hfirst : appendDigits 0 (d :: digits) = appendDigits d digits := by
    simp [appendDigits]
  rw [hfirst, base16_appendDigits digit hd fun x hx => h x (by simp [hx]),
    base16_of_lt digit (h d List.mem_cons_self)]
  rfl

/-- A numeral is read digit by digit, -/
theorem readBase16_eq (value : Char → Nat) (t : Text) :
    readBase16 value t = appendDigits 0 (t.map value) := by
  rw [readBase16, appendDigits, List.foldl_map]

/-- and what stands behind it goes on from its number. -/
theorem readBase16_append (value : Char → Nat) (s t : Text) :
    readBase16 value (s ++ t) = appendDigits (readBase16 value s) (t.map value) := by
  rw [readBase16, readBase16, appendDigits, List.foldl_append, List.foldl_map]

/-- A numeral is as long as its number is large. -/
theorem lt_length_base16_iff (digit : Nat → Char) {n k : Nat} (hk : 0 < k) :
    k < (base16 digit n).length ↔ 16 ^ k ≤ n := by
  fun_induction base16 digit n generalizing k with
  | case1 n hlt =>
      have hpow : 16 ^ 1 ≤ 16 ^ k := Nat.pow_le_pow_right (by decide) hk
      rw [List.length_singleton]
      omega
  | case2 n hlt ih =>
      rw [List.length_append, List.length_singleton]
      rcases Nat.lt_or_ge 1 k with h | h
      · obtain ⟨j, rfl⟩ : ∃ j, k = j + 1 := ⟨k - 1, by omega⟩
        rw [Nat.add_lt_add_iff_right, ih (by omega), Nat.pow_succ, Nat.le_div_iff_mul_le (by decide)]
      · obtain rfl : k = 1 := by omega
        have hne := List.length_pos_of_ne_nil (base16_ne_nil digit (n / 16))
        omega

end ClassGraft.Text
