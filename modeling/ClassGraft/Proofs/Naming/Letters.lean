import Mathlib.Logic.Function.Basic
import ClassGraft.Naming.Fragment
import ClassGraft.Proofs.Naming.Numerals

/-!
# The letters of a class

The number of a class is written with a letter from `a` to `p` for each hexadecimal digit, and
filled up with `z` to three letters. The filling is no digit, and a numeral starts with the
letter for zero only where it is the number zero, so letters are read back in one way: what
follows the filling is the numeral, and the filling is exactly what this numeral needs.

The main statement says that reading accepts the letters of a class and nothing else.
-/

namespace ClassGraft.Naming

open Text

/-! ## Letters for digits -/

/-- The letter for a hexadecimal digit: the ten figures go up to `j`, and the rest from `k`. -/
def letterOfDigit (c : Char) : Char :=
  if c.isDigit then Char.ofNat (c.toNat + 0x31) else Char.ofNat (c.toNat + 0x0A)

theorem letterOfDigit_hexDigit {d : Nat} (h : d < 16) : letterOfDigit (hexDigit d) = idLetter d := by
  have all : ∀ d : Fin 16, letterOfDigit (hexDigit d) = idLetter d := by decide
  exact all ⟨d, h⟩

theorem map_letterOfDigit_hex (id : Nat) : (hex id).map letterOfDigit = base16 idLetter id :=
  map_base16 (fun _ => letterOfDigit_hexDigit) id

/-- A class has as many letters as its number has hexadecimal digits, and at least three. -/
theorem length_classLetters (id : Nat) : (classLetters id).length = max 3 (hex id).length := by
  rw [classLetters, length_padLeft, hex, length_base16 idLetter hexDigit]

/-- The letters of a class, where there are three of them without filling up. -/
theorem classLetters_of_le {id : Nat} (h : 256 ≤ id) :
    classLetters id = base16 idLetter id := by
  have hlength : 2 < (base16 idLetter id).length :=
    (lt_length_base16_iff idLetter (by decide)).mpr h
  rw [classLetters, padLeft, Nat.sub_eq_zero_of_le hlength, List.replicate_zero, List.nil_append]

/-- Otherwise they are filled up. -/
theorem fill_mem_classLetters {id : Nat} (h : id < 256) : 'z' ∈ classLetters id := by
  have hlength : ¬ 2 < (base16 idLetter id).length := by
    rw [lt_length_base16_iff idLetter (by decide)]
    omega
  rw [classLetters, padLeft, List.mem_append, List.mem_replicate]
  exact Or.inl ⟨by omega, rfl⟩

/-! ## Values of letters -/

/-- The value of a letter, zero for the letter that fills up. -/
def letterValue (c : Char) : Nat := if c = 'z' then 0 else c.toNat - 0x61

theorem letterValue_idLetter {d : Nat} (h : d < 16) : letterValue (idLetter d) = d := by
  have all : ∀ d : Fin 16, letterValue (idLetter d) = d := by decide
  exact all ⟨d, h⟩

theorem idLetter_bounds {d : Nat} (h : d < 16) : 'a' ≤ idLetter d ∧ idLetter d ≤ 'p' := by
  have all : ∀ d : Fin 16, 'a' ≤ idLetter d ∧ idLetter d ≤ 'p' := by decide
  exact all ⟨d, h⟩

/-- Each letter from `a` to `p` is the letter for its value. -/
theorem exists_eq_idLetter {c : Char} (hle : 'a' ≤ c) (hge : c ≤ 'p') :
    ∃ d, d < 16 ∧ c = idLetter d := by
  have hle : 0x61 ≤ c.toNat := hle
  have hge : c.toNat ≤ 0x70 := hge
  refine ⟨c.toNat - 0x61, by omega, ?_⟩
  rw [idLetter, Nat.add_sub_cancel' hle, Char.ofNat_toNat]

/-- Letters read back as the number that they stand for. -/
theorem readBase16_classLetters (id : Nat) : readBase16 letterValue (classLetters id) = id := by
  rw [classLetters, readBase16_padLeft (by rfl), readBase16_base16 fun _ => letterValue_idLetter]

/-- So numbers have letters of their own. -/
theorem classLetters_injective {m n : Nat} (h : classLetters m = classLetters n) : m = n := by
  rw [← readBase16_classLetters m, h, readBase16_classLetters]

/-! ## Numerals in letters -/

/-- A numeral in letters. It starts with the letter for zero only where it is that letter. -/
def IsNumeral (t : Text) : Prop :=
  t ≠ [] ∧ (∀ c ∈ t, 'a' ≤ c ∧ c ≤ 'p') ∧ (t.head? = some 'a' → t = ['a'])

/-- The test for numerals in letters. -/
def isNumeral (t : Text) : Bool :=
  !t.isEmpty && t.all (fun c => 'a' ≤ c ∧ c ≤ 'p') && (t.head? != some 'a' || t == ['a'])

theorem isNumeral_iff (t : Text) : isNumeral t = true ↔ IsNumeral t := by
  simp [isNumeral, IsNumeral, and_assoc, imp_iff_not_or]

instance (t : Text) : Decidable (IsNumeral t) := decidable_of_iff _ (isNumeral_iff t)

theorem isNumeral_base16 (id : Nat) : IsNumeral (base16 idLetter id) := by
  refine ⟨base16_ne_nil idLetter id, ?_, ?_⟩
  · intro c hc
    obtain ⟨d, hd, rfl⟩ := exists_digit_of_mem_base16 hc
    exact idLetter_bounds hd
  · intro hhead
    rcases Nat.eq_zero_or_pos id with rfl | hpos
    · exact base16_of_lt idLetter (by decide)
    · obtain ⟨d, rest, hd, hlt, hnumeral⟩ := exists_base16_eq_cons idLetter hpos
      have hne : ∀ d : Fin 16, 0 < d.val → idLetter d ≠ 'a' := by decide
      rw [hnumeral, List.head?_cons, Option.some.injEq] at hhead
      exact absurd hhead (hne ⟨d, hlt⟩ hd)

/-- A numeral is what is written for its number. -/
theorem IsNumeral.base16_readBase16 {t : Text} (h : IsNumeral t) :
    base16 idLetter (readBase16 letterValue t) = t := by
  obtain ⟨hne, hletters, hzero⟩ := h
  have hself : ∀ c ∈ t, letterValue c < 16 ∧ idLetter (letterValue c) = c := by
    intro c hc
    obtain ⟨d, hd, rfl⟩ := exists_eq_idLetter (hletters c hc).1 (hletters c hc).2
    rw [letterValue_idLetter hd]
    exact ⟨hd, rfl⟩
  cases t with
  | nil => exact absurd rfl hne
  | cons c rest =>
      by_cases hc : c = 'a'
      · rw [hzero (by rw [hc, List.head?_cons])]
        exact base16_of_lt idLetter (by decide)
      · have hpos : 0 < letterValue c := by
          refine Nat.pos_of_ne_zero fun hvalue => hc ?_
          rw [← (hself c List.mem_cons_self).2, hvalue]
          rfl
        have hsmall : ∀ d ∈ letterValue c :: rest.map letterValue, d < 16 := by
          rw [← List.map_cons, List.forall_mem_map]
          exact fun c hc => (hself c hc).1
        rw [readBase16_eq, List.map_cons, base16_appendDigits_zero idLetter hpos hsmall,
          ← List.map_cons]
        exact map_digit_map_value fun c hc => (hself c hc).2

/-- What follows the filling. -/
def unfilled (t : Text) : Text := t.dropWhile (· == 'z')

/-- A numeral is what follows the filling in front of it. -/
theorem IsNumeral.unfilled_padLeft {t : Text} (h : IsNumeral t) (width : Nat) :
    unfilled (padLeft width 'z' t) = t := by
  have hfill : ∀ c ∈ List.replicate (width - t.length) 'z', (c == 'z') = true := by
    intro c hc
    rw [List.eq_of_mem_replicate hc]
    rfl
  rw [padLeft, unfilled, List.dropWhile_append_of_pos hfill]
  obtain ⟨hne, hletters, -⟩ := h
  cases t with
  | nil => exact absurd rfl hne
  | cons c rest =>
      have hc : ¬ (c == 'z') = true := by
        intro hz
        obtain rfl : c = 'z' := by simpa using hz
        exact absurd (hletters 'z' List.mem_cons_self).2 (by decide)
      exact List.dropWhile_cons_of_neg hc

/-! ## Reading -/

/-- Reads the letters of a class. They are a numeral behind the filling, and the filling brings
it to three letters. -/
def readClassLetters? (t : Text) : Option Nat :=
  if IsNumeral (unfilled t) ∧ t = padLeft 3 'z' (unfilled t) then
    some (readBase16 letterValue (unfilled t))
  else none

theorem readClassLetters?_classLetters (id : Nat) : readClassLetters? (classLetters id) = some id := by
  have hnumeral := isNumeral_base16 id
  have hunfilled : unfilled (classLetters id) = base16 idLetter id := hnumeral.unfilled_padLeft 3
  rw [readClassLetters?, hunfilled, if_pos ⟨hnumeral, rfl⟩,
    readBase16_base16 fun _ => letterValue_idLetter]

theorem eq_classLetters_of_read {t : Text} {id : Nat} (h : readClassLetters? t = some id) :
    t = classLetters id := by
  unfold readClassLetters? at h
  split at h
  · next hread =>
    obtain ⟨hnumeral, hfilled⟩ := hread
    obtain rfl := Option.some.inj h
    rw [classLetters, hnumeral.base16_readBase16]
    exact hfilled
  · cases h

/-- The letters of classes can be read back. They are the hexadecimal digits of the number,
changed to letters from `a` to `p` and filled up with `z` to three. One reader takes the letters
of each class back to its number, and refuses all other texts; so no two numbers share their
letters. -/
theorem classLetters_read_back :
    (∀ id,
      classLetters id = List.replicate (3 - (hex id).length) 'z' ++ (hex id).map letterOfDigit ∧
        (∀ c ∈ (hex id).map letterOfDigit, 'a' ≤ c ∧ c ≤ 'p') ∧
        (classLetters id).length = max 3 (hex id).length) ∧
      (∀ t id, readClassLetters? t = some id ↔ t = classLetters id) ∧
      Function.Injective classLetters := by
  refine ⟨?_, ?_, fun _ _ => classLetters_injective⟩
  · intro id
    refine ⟨?_, ?_, length_classLetters id⟩
    · rw [map_letterOfDigit_hex, hex, length_base16 hexDigit idLetter]
      rfl
    · rw [map_letterOfDigit_hex]
      exact (isNumeral_base16 id).2.1
  · intro t id
    constructor
    · exact eq_classLetters_of_read
    · rintro rfl
      exact readClassLetters?_classLetters id

/-- Filling that is missing, too long, or a letter for a digit is refused. -/
example : readClassLetters? (ofString "zzk") = some 10 ∧ readClassLetters? (ofString "zk") = none ∧
    readClassLetters? (ofString "zzzk") = none ∧ readClassLetters? (ofString "aak") = none := by
  decide

end ClassGraft.Naming
