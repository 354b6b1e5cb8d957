import ClassGraft.Proofs.Name.Packages
import ClassGraft.Proofs.Naming.ClassNumbers

/-!
# When handlers of two classes get one name

In the name of a handler the letters of its class stand next to the digits of its occurrence,
with nothing in between. Up to three letters the digits start at a fixed place. A fourth
letter may be one that is also a digit, and then the name reads in two ways: as a class with
fewer letters and an occurrence with more digits.

`RunsInto` says of the numbers when that happens, and the main statement says that apart from
this, handlers that share all other parts of their names get one name only where the
occurrences of their key went round. The first class that this can happen to is the 4097th,
and the first occurrence is the 40961st of its key.
-/

namespace ClassGraft

namespace Naming

open Text

/-! ## Letters that are digits -/

/-- The value of a digit, zero for what is none. -/
def hexValue (c : Char) : Nat := (hexValue? c).getD 0

theorem length_occurrenceDigits (n : UInt32) : 3 ≤ (occurrenceDigits n).length := by
  rw [occurrenceDigits, length_padLeft]
  exact Nat.le_max_left _ _

theorem exists_digit_of_mem_occurrenceDigits {n : UInt32} {c : Char}
    (h : c ∈ occurrenceDigits n) : ∃ y : Fin 16, c = hexDigit y := by
  rcases List.mem_append.mp h with hfill | hhex
  · exact ⟨0, List.eq_of_mem_replicate hfill⟩
  · obtain ⟨y, hy, heq⟩ := exists_digit_of_mem_base16 hhex
    exact ⟨⟨y, hy⟩, heq⟩

/-- Letters that go on where those of a class end are digits of a larger class. -/
theorem exists_letters_of_classLetters_eq {c d : Nat} {s : Text} (hs : s ≠ [])
    (h : classLetters d = classLetters c ++ s) :
    256 ≤ c ∧ ∃ digits : List Nat, (∀ x ∈ digits, x < 16) ∧ s = digits.map idLetter ∧
      d = appendDigits c digits := by
  have hlength : 3 < (classLetters d).length := by
    have hpos := List.length_pos_of_ne_nil hs
    rw [h, List.length_append, length_classLetters]
    omega
  have hd : 256 ≤ d := by
    by_contra hlt
    have hshort : ¬ 2 < (hex d).length := by
      rw [hex, lt_length_base16_iff hexDigit (by decide)]
      omega
    rw [length_classLetters] at hlength
    omega
  rw [classLetters_of_le hd] at h
  have hletter : ∀ x ∈ classLetters c ++ s, ∃ y, y < 16 ∧ x = idLetter y := fun x hx =>
    exists_digit_of_mem_base16 (h ▸ hx)
  have hfill : ∀ d : Fin 16, 'z' ≠ idLetter d := by decide
  refine ⟨?_, s.map letterValue, ?_, ?_, ?_⟩
  · by_contra hlt
    obtain ⟨y, hy, heq⟩ :=
      hletter 'z' (List.mem_append_left _ (fill_mem_classLetters (Nat.lt_of_not_le hlt)))
    exact hfill ⟨y, hy⟩ heq
  · intro x hx
    obtain ⟨letter, hmem, rfl⟩ := List.mem_map.mp hx
    obtain ⟨y, hy, rfl⟩ := hletter letter (List.mem_append_right _ hmem)
    rw [letterValue_idLetter hy]
    exact hy
  · refine (map_digit_map_value fun letter hmem => ?_).symm
    obtain ⟨y, hy, rfl⟩ := hletter letter (List.mem_append_right _ hmem)
    rw [letterValue_idLetter hy]
  · rw [← readBase16_base16 (fun _ => letterValue_idLetter) d, h, readBase16_append,
      readBase16_classLetters]

/-- The digits of an occurrence read back as its number. -/
theorem readBase16_occurrenceDigits (n : UInt32) :
    readBase16 hexValue (occurrenceDigits n) = n.toNat :=
  readBase16_padLeft_hex 3 n.toNat

/-- Letters up to the sixth are digits from ten on. -/
theorem hex_appendDigits {digits : List Nat} (hne : digits ≠ []) (h : ∀ x ∈ digits, x < 6) :
    hex (appendDigits 0 (digits.map (· + 10))) = digits.map idLetter := by
  have hletter : ∀ x : Fin 6, hexDigit (x + 10) = idLetter x := by decide
  cases digits with
  | nil => exact absurd rfl hne
  | cons x digits =>
      have hlarge : ∀ y ∈ (x + 10) :: digits.map (· + 10), y < 16 := by
        intro y hy
        have hmem : y ∈ (x :: digits).map (· + 10) := hy
        obtain ⟨z, hz, rfl⟩ := List.mem_map.mp hmem
        have hz' := h z hz
        omega
      have hhex : hex (appendDigits 0 ((x :: digits).map (· + 10)))
          = ((x :: digits).map (· + 10)).map hexDigit :=
        base16_appendDigits_zero (d := x + 10) hexDigit (by omega) hlarge
      rw [hhex, List.map_map]
      exact List.map_congr_left fun y hy => hletter ⟨y, h y hy⟩

/-- So they stand for ten at least. -/
theorem ten_le_appendDigits {digits : List Nat} (hne : digits ≠ []) :
    10 ≤ appendDigits 0 (digits.map (· + 10)) := by
  cases digits with
  | nil => exact absurd rfl hne
  | cons x digits =>
      calc 10
        _ ≤ 16 * 0 + (x + 10) := by omega
        _ ≤ appendDigits (16 * 0 + (x + 10)) (digits.map (· + 10)) := le_appendDigits _ _

/-- Where the digits of an occurrence begin with letters, its number is that of the letters in
front of that of the rest. -/
theorem toNat_of_occurrenceDigits_eq {m n : UInt32} {digits : List Nat}
    (hdigits : ∀ x ∈ digits, x < 16)
    (h : occurrenceDigits m = digits.map idLetter ++ occurrenceDigits n) :
    (∀ x ∈ digits, x < 6) ∧ m.toNat
      = appendDigits 0 (digits.map (· + 10)) * 16 ^ (occurrenceDigits n).length + n.toNat := by
  have hshared : ∀ x : Fin 16, ∀ y : Fin 16, idLetter x = hexDigit y →
      x.val < 6 ∧ hexValue (idLetter x) = x + 10 := by decide
  have hboth : ∀ x ∈ digits, x < 6 ∧ hexValue (idLetter x) = x + 10 := by
    intro x hx
    obtain ⟨y, hy⟩ := exists_digit_of_mem_occurrenceDigits
      (h ▸ List.mem_append_left _ (List.mem_map_of_mem hx))
    exact hshared ⟨x, hdigits x hx⟩ y hy
  refine ⟨fun x hx => (hboth x hx).1, ?_⟩
  have hvalues : (digits.map idLetter).map hexValue = digits.map (· + 10) := by
    rw [List.map_map]
    exact List.map_congr_left fun x hx => (hboth x hx).2
  calc m.toNat
    _ = readBase16 hexValue (digits.map idLetter ++ occurrenceDigits n) := by
        rw [← h, readBase16_occurrenceDigits]
    _ = readBase16 hexValue (digits.map idLetter) * 16 ^ (occurrenceDigits n).length
          + readBase16 hexValue (occurrenceDigits n) := by
        rw [readBase16_append, appendDigits_eq, List.length_map,
          ← readBase16_eq hexValue (occurrenceDigits n)]
    _ = appendDigits 0 (digits.map (· + 10)) * 16 ^ (occurrenceDigits n).length + n.toNat := by
        rw [readBase16_occurrenceDigits, readBase16_eq, hvalues]

/-- And the other way round. -/
theorem occurrenceDigits_eq {m n : UInt32} {digits : List Nat} (hne : digits ≠ [])
    (hdigits : ∀ x ∈ digits, x < 6)
    (h : m.toNat
      = appendDigits 0 (digits.map (· + 10)) * 16 ^ (occurrenceDigits n).length + n.toNat) :
    occurrenceDigits m = digits.map idLetter ++ occurrenceDigits n := by
  -- The rest are digits behind the number of the letters.
  have hbehind : m.toNat = appendDigits (appendDigits 0 (digits.map (· + 10)))
      ((occurrenceDigits n).map hexValue) := by
    rw [h, appendDigits_eq (appendDigits 0 _), List.length_map, ← readBase16_eq,
      readBase16_occurrenceDigits]
  have hvalue : ∀ y : Fin 16, hexValue (hexDigit y) = y := by decide
  have hsmall : ∀ x ∈ (occurrenceDigits n).map hexValue, x < 16 := by
    intro x hx
    obtain ⟨letter, hmem, rfl⟩ := List.mem_map.mp hx
    obtain ⟨y, rfl⟩ := exists_digit_of_mem_occurrenceDigits hmem
    rw [hvalue y]
    exact y.isLt
  have hself : ((occurrenceDigits n).map hexValue).map hexDigit = occurrenceDigits n := by
    refine map_digit_map_value fun letter hmem => ?_
    obtain ⟨y, rfl⟩ := exists_digit_of_mem_occurrenceDigits hmem
    rw [hvalue y]
  have hpos : 0 < appendDigits 0 (digits.map (· + 10)) :=
    Nat.lt_of_lt_of_le (by decide) (ten_le_appendDigits hne)
  have hhex : hex m.toNat = digits.map idLetter ++ occurrenceDigits n := by
    rw [hbehind, hex, base16_appendDigits hexDigit hpos hsmall, hself]
    exact congrArg (· ++ _) (hex_appendDigits hne hdigits)
  have hlength : 3 ≤ (hex m.toNat).length := by
    rw [hhex, List.length_append]
    exact Nat.le_add_left_of_le (length_occurrenceDigits n)
  calc occurrenceDigits m
    _ = List.replicate (3 - (hex m.toNat).length) '0' ++ hex m.toNat := rfl
    _ = digits.map idLetter ++ occurrenceDigits n := by
        rw [Nat.sub_eq_zero_of_le hlength, List.replicate_zero, List.nil_append, hhex]

/-! ## Two readings of one text -/

/-- The letters of the second class go on where those of the first one end, with letters that
are digits, and these begin the digits of the first occurrence, before those of the second. -/
def RunsInto (c : Nat) (m : UInt32) (d : Nat) (n : UInt32) : Prop :=
  256 ≤ c ∧ ∃ digits : List Nat, digits ≠ [] ∧ (∀ x ∈ digits, x < 6) ∧
    d = appendDigits c digits ∧
    m.toNat = appendDigits 0 (digits.map (· + 10)) * 16 ^ (occurrenceDigits n).length + n.toNat

theorem runsInto_iff {c d : Nat} {m n : UInt32} :
    RunsInto c m d n ↔ ∃ s, s ≠ [] ∧ classLetters d = classLetters c ++ s ∧
      occurrenceDigits m = s ++ occurrenceDigits n := by
  constructor
  · rintro ⟨hc, digits, hne, hdigits, rfl, hm⟩
    refine ⟨digits.map idLetter, by simpa using hne, ?_, occurrenceDigits_eq hne hdigits hm⟩
    rw [classLetters_of_le hc, classLetters_of_le (hc.trans (le_appendDigits c digits)),
      base16_appendDigits idLetter (by omega) fun x hx => (hdigits x hx).trans (by decide)]
  · rintro ⟨s, hs, hletters, hocc⟩
    obtain ⟨hc, digits, hdigits, rfl, hd⟩ := exists_letters_of_classLetters_eq hs hletters
    obtain ⟨hsmall, hm⟩ := toNat_of_occurrenceDigits_eq hdigits hocc
    exact ⟨hc, digits, by simpa using hs, hsmall, hd, hm⟩

/-- The first class that another one runs into is the 4097th, by an occurrence that is the
40961st of its key at least. -/
theorem RunsInto.le {c d : Nat} {m n : UInt32} (h : RunsInto c m d n) :
    4096 ≤ d ∧ 40960 ≤ m.toNat := by
  obtain ⟨hc, digits, hne, -, hd, hm⟩ := h
  constructor
  · have hpow : 16 ^ 1 ≤ 16 ^ digits.length :=
      Nat.pow_le_pow_right (by decide) (List.length_pos_of_ne_nil hne)
    calc 4096
      _ = 256 * 16 ^ 1 := rfl
      _ ≤ c * 16 ^ digits.length := Nat.mul_le_mul hc hpow
      _ ≤ d := by rw [hd, appendDigits_eq]; exact Nat.le_add_right _ _
  · have hpow : 16 ^ 3 ≤ 16 ^ (occurrenceDigits n).length :=
      Nat.pow_le_pow_right (by decide) (length_occurrenceDigits n)
    calc 40960
      _ = 10 * 16 ^ 3 := rfl
      _ ≤ _ := Nat.mul_le_mul (ten_le_appendDigits hne) hpow
      _ ≤ m.toNat := by rw [hm]; exact Nat.le_add_right _ _

/-- Letters and digits are read in one way, unless one reading runs into the other. -/
theorem classLetters_append_eq_iff {c d : Nat} {m n : UInt32} :
    classLetters c ++ occurrenceDigits m = classLetters d ++ occurrenceDigits n ↔
      (c = d ∧ m = n) ∨ RunsInto c m d n ∨ RunsInto d n c m := by
  rw [runsInto_iff, runsInto_iff, List.append_eq_append_iff]
  constructor
  · rintro (⟨s, hletters, hdigits⟩ | ⟨s, hletters, hdigits⟩)
    · rcases eq_or_ne s [] with rfl | hs
      · rw [List.append_nil] at hletters
        exact Or.inl ⟨(classLetters_injective hletters).symm, occurrenceDigits_injective hdigits⟩
      · exact Or.inr (Or.inl ⟨s, hs, hletters, hdigits⟩)
    · rcases eq_or_ne s [] with rfl | hs
      · rw [List.append_nil] at hletters
        exact Or.inl ⟨classLetters_injective hletters,
          (occurrenceDigits_injective hdigits).symm⟩
      · exact Or.inr (Or.inr ⟨s, hs, hletters, hdigits⟩)
  · rintro (⟨rfl, rfl⟩ | ⟨s, _, hletters, hdigits⟩ | ⟨s, _, hletters, hdigits⟩)
    · exact Or.inl ⟨[], by simp, by simp⟩
    · exact Or.inl ⟨s, hletters, hdigits⟩
    · exact Or.inr ⟨s, hletters, hdigits⟩

end Naming

/-! ## Calls for handlers -/

namespace Call

/-- The request that leaves the registry as the call does. -/
def served : Call → Request
  | classNumber c => .letters c
  | request q => q

/-- Is the call for an occurrence of this key of its own? -/
def countsFor (key : Text) (c : Call) : Bool := c.asksFor key && c.counts

theorem countsFor_served (key : Text) (c : Call) : c.served.countsFor key = c.countsFor key := by
  cases c with
  | classNumber c => rfl
  | request q => cases q <;> rfl

/-- A call for the name of a handler that is no surrogate. -/
def handler (source : Option Text) (word name descriptor : Text) (target : ClassName) : Call :=
  .request (.handler source word target name descriptor false)

/-- The key that the handler is an occurrence of, in whatever class. -/
def handlerKey (source : Option Text) (name descriptor : Text) : Text :=
  Registry.occurrenceKey (Naming.stripSource name (Naming.sourceNamespace source)) descriptor

theorem countsFor_handler (source : Option Text) (word name descriptor : Text)
    (target : ClassName) :
    (handler source word name descriptor target).countsFor (handlerKey source name descriptor)
      = true :=
  Bool.and_eq_true_iff.mpr ⟨asksFor_iff.mpr rfl, rfl⟩

end Call

namespace Registry

theorem after_call (r : Registry) (calls : List Call) :
    Runs.after call r calls = r.run (calls.map Call.served) := by
  have hserved : ∀ (r : Registry) (c : Call), (r.call c).2 = (r.serve c.served).2 := by
    intro r c
    cases c <;> rfl
  induction calls generalizing r with
  | nil => rfl
  | cons c calls ih =>
      show Runs.after call (r.call c).2 calls = (r.serve c.served).2.run (calls.map Call.served)
      rw [hserved, ih]

/-- The number of a class that a call asks for is the one that the class has in the end. -/
theorem classId_after_take (r : Registry) {calls : List Call} {i : Nat} {x : Call} {c : ClassName}
    (hi : calls[i]? = some x) (hc : x.class? = some c) :
    c ∈ (Runs.after call r calls).classes ∧
      ((Runs.after call r (calls.take i)).classId c).1
        = (Runs.after call r calls).classes.idxOf c := by
  let before := Runs.after call r (calls.take i)
  have hasked : (before.call x).2.classes = (before.classId c).2.classes := by
    cases x with
    | classNumber c' =>
        obtain rfl := Option.some.inj hc
        rfl
    | request q =>
        cases q with
        | digits name descriptor counts => cases hc
        | _ =>
            obtain rfl := Option.some.inj hc
            rfl
  have hmem : c ∈ (before.call x).2.classes := by
    rw [hasked]
    exact (classes_classId before c).1
  have hlater : (before.call x).2.classes <+: (Runs.after call r calls).classes := by
    have hlength : i < calls.length := (List.getElem?_eq_some_iff.mp hi).1
    have hsplit := Runs.after_take_of_lt call r hlength hi
    rw [List.take_length] at hsplit
    rw [hsplit, after_call]
    exact isPrefix_classes_run _ _
  refine ⟨hlater.subset hmem, ?_⟩
  calc (before.classId c).1
    _ = ((before.classId c).2.classId c).1 := (classId_classId before c).symm
    _ = ((before.call x).2.classId c).1 := by rw [classId_eq_idxOf, ← hasked, ← classId_eq_idxOf]
    _ = (Runs.after call r calls).classes.idxOf c := by
        rw [← classId_of_isPrefix hmem hlater, classId_eq_idxOf]

section Counting

variable {key : Text} {x : Call} {calls : List Call} {i j : Nat}

/-- A call that counts is given the next number of its key. -/
theorem latest?_call_of_countsFor (r : Registry) (hx : x.countsFor key = true) :
    (r.call x).2.latest? key = some (r.nextNumber key) := by
  obtain ⟨hasks, hcounts⟩ := Bool.and_eq_true_iff.mp hx
  rw [latest?_call, if_pos hasks, hcounts, nextNumber]

/-- It has the same number as a later one where the numbers between them went round. -/
theorem nextNumber_after_take_eq_iff (r : Registry) (hij : i < j) (hi : calls[i]? = some x)
    (hx : x.countsFor key = true) :
    (Runs.after call r (calls.take i)).nextNumber key
        = (Runs.after call r (calls.take j)).nextNumber key ↔
      UInt32.size ∣ ((calls.take j).drop (i + 1)).countP (Call.countsFor key) + 1 := by
  rw [Runs.after_take_of_lt call r hij hi, after_call (call _ _).2,
    nextNumber_run_eq_iff (latest?_call_of_countsFor _ hx), List.countP_map]
  simp only [Function.comp_def, Call.countsFor_served]

/-- They cannot go round in fewer than 2^32 calls that count. -/
theorem countP_between_lt (hij : i < j) (hi : calls[i]? = some x)
    (hx : x.countsFor key = true) :
    ((calls.take j).drop (i + 1)).countP (Call.countsFor key)
      < calls.countP (Call.countsFor key) := by
  have htake : (calls.take j).countP (Call.countsFor key) ≤ calls.countP (Call.countsFor key) :=
    (List.take_sublist _ _).countP_le
  rw [Runs.take_eq_of_lt hij hi, List.countP_append, List.countP_cons_of_pos hx] at htake
  omega

/-- The numbers of a key that is new stay below the number of calls for it. -/
theorem nextNumber_after_take_lt {r : Registry} (hnew : r.latest? key = none)
    (hi : calls[i]? = some x) (hx : x.countsFor key = true) :
    ((Runs.after call r (calls.take i)).nextNumber key).toNat
      < calls.countP (Call.asksFor key) := by
  have htake : calls.take (i + 1) = calls.take i ++ [x] := by
    rw [List.take_add_one, hi]
    rfl
  have hany : (calls.take (i + 1)).any (Call.asksFor key) = true := by
    rw [htake]
    simp [(Bool.and_eq_true_iff.mp hx).1]
  have hlatest := latest?_after hnew (calls.take (i + 1))
  rw [if_pos hany, htake, Runs.after_append, ← htake] at hlatest
  have hnumber := (latest?_call_of_countsFor _ hx).symm.trans hlatest
  rw [Option.some.inj hnumber, UInt32.toNat_ofNat']
  calc Call.latestNumber key (calls.take (i + 1)) % 2 ^ 32
    _ ≤ Call.latestNumber key (calls.take (i + 1)) := Nat.mod_le _ _
    _ < (calls.take (i + 1)).countP (Call.asksFor key) := Call.latestNumber_lt hany
    _ ≤ calls.countP (Call.asksFor key) := (List.take_sublist _ _).countP_le

end Counting

/-! ## Handlers that share all but their class -/

/-- The name that a handler is given. -/
theorem call_handler_eq (r : Registry) (source : Option Text) (word name descriptor : Text)
    (c : ClassName) :
    (r.call (.handler source word name descriptor c)).1
      = .text (Naming.handlerText word (r.classId c).1
        (r.nextNumber (Call.handlerKey source name descriptor)) source name) := by
  have hnumber : ∀ key, ((r.classId c).2.occurrence key true).1 = r.nextNumber key := by
    intro key
    simp only [nextNumber, occurrence, latest?_classId]
  rw [← hnumber]
  rfl

/-- Names that share all other parts are the same where their numbers read the same. -/
theorem handlerText_eq_iff {word name : Text} {source : Option Text} {id id' : Nat}
    {m n : UInt32} :
    Naming.handlerText word id m source name = Naming.handlerText word id' n source name ↔
      (id = id' ∧ m = n) ∨ Naming.RunsInto id m id' n ∨ Naming.RunsInto id' n id m := by
  rw [← Naming.classLetters_append_eq_iff, Naming.handlerText, Naming.handlerText,
    List.append_cancel_right_eq, List.append_cancel_right_eq]
  simp

/-- Any calls of any registry, and among them calls for handlers that share the source id, the
word, the member name and the descriptor. Two of them get the same name exactly where they are
for one class and the numbers of their key went round between them, or where the numbers of
the one run into those of the other.

So no two of them get the same name if fewer than 2^32 calls count for their key and if there
are 4096 classes at most, or if the key is new and there are 40960 calls for it at most. -/
theorem getElem?_outputs_handler (r : Registry) (calls : List Call) (source : Option Text)
    (word name descriptor : Text) :
    let key := Call.handlerKey source name descriptor
    let id := fun c => (Runs.after call r calls).classes.idxOf c
    let number := fun i => (Runs.after call r (calls.take i)).nextNumber key
    (∀ (i j : Nat) c d, i < j → calls[i]? = some (.handler source word name descriptor c) →
      calls[j]? = some (.handler source word name descriptor d) →
      ((Runs.outputs call r calls)[i]? = (Runs.outputs call r calls)[j]? ↔
        (c = d ∧ UInt32.size ∣ ((calls.take j).drop (i + 1)).countP (Call.countsFor key) + 1) ∨
          Naming.RunsInto (id c) (number i) (id d) (number j) ∨
          Naming.RunsInto (id d) (number j) (id c) (number i))) ∧
    (calls.countP (Call.countsFor key) < UInt32.size →
      ((Runs.after call r calls).classCount ≤ 4096 ∨
        (r.latest? key = none ∧ calls.countP (Call.asksFor key) ≤ 40960)) →
      ∀ (i j : Nat) c d, i < j → calls[i]? = some (.handler source word name descriptor c) →
        calls[j]? = some (.handler source word name descriptor d) →
        (Runs.outputs call r calls)[i]? ≠ (Runs.outputs call r calls)[j]?) := by
  intro key id number
  have hcounts : ∀ c, (Call.handler source word name descriptor c).countsFor key = true :=
    Call.countsFor_handler source word name descriptor
  have hsame : ∀ (i j : Nat) c d, i < j → calls[i]? = some (.handler source word name descriptor c) →
      calls[j]? = some (.handler source word name descriptor d) →
      ((Runs.outputs call r calls)[i]? = (Runs.outputs call r calls)[j]? ↔
        (c = d ∧ UInt32.size ∣ ((calls.take j).drop (i + 1)).countP (Call.countsFor key) + 1) ∨
          Naming.RunsInto (id c) (number i) (id d) (number j) ∨
          Naming.RunsInto (id d) (number j) (id c) (number i)) := by
    intro i j c d hij hi hj
    obtain ⟨hc, hcid⟩ := classId_after_take r hi rfl
    obtain ⟨_, hdid⟩ := classId_after_take r hj rfl
    rw [Runs.getElem?_outputs call r hi, Runs.getElem?_outputs call r hj, Option.some_inj,
      call_handler_eq, call_handler_eq, Answer.text.injEq, handlerText_eq_iff, hcid, hdid,
      List.idxOf_inj hc, nextNumber_after_take_eq_iff r hij hi (hcounts c)]
  refine ⟨hsame, ?_⟩
  intro hfew hsmall i j c d hij hi hj hequal
  -- Neither of the two numbers that a reading runs through can be so large.
  have hfree : ∀ {i j : Nat} {c d : ClassName},
      calls[i]? = some (.handler source word name descriptor c) →
      calls[j]? = some (.handler source word name descriptor d) →
      ¬ Naming.RunsInto (id c) (number i) (id d) (number j) := by
    intro i j c d hi hj hruns
    obtain ⟨hclass, hnumber⟩ := hruns.le
    rcases hsmall with hclasses | ⟨hnew, hcalls⟩
    · have hlt := List.idxOf_lt_length_iff.mpr (classId_after_take r hj rfl).1
      exact absurd (hclass.trans_lt (hlt.trans_le hclasses)) (Nat.lt_irrefl _)
    · have hlt := nextNumber_after_take_lt hnew hi (hcounts c)
      exact absurd (hnumber.trans_lt (hlt.trans_le hcalls)) (Nat.lt_irrefl _)
  rcases (hsame i j c d hij hi hj).mp hequal with ⟨_, hround⟩ | hruns | hruns
  · have hlt := countP_between_lt hij hi (hcounts c)
    have hle := Nat.le_of_dvd (Nat.succ_pos _) hround
    omega
  · exact hfree hi hj hruns
  · exact hfree hj hi hruns

/-- Another class is asked for, and the key occurs in between. -/
theorem outputs_handler_ne :
    let onTick := Call.handler (some (Text.ofString "mymod")) (Text.ofString "handler")
      (Text.ofString "onTick") (Text.ofString "()V")
    let calls := [onTick (.literal "game/Player"), .classNumber (.literal "game/Block"),
      .request (.digits (Text.ofString "onTick") (Text.ofString "()V") true),
      onTick (.literal "game/Zombie")]
    (Runs.outputs call .empty calls)[0]? ≠ (Runs.outputs call .empty calls)[3]? := by
  intro onTick calls
  exact (getElem?_outputs_handler .empty calls _ _ _ _).2 (by decide) (Or.inl (by decide)) 0 3
    (.literal "game/Player") (.literal "game/Zombie") (by decide) rfl rfl

/-! ## A crowd of classes -/

/-- A class of a crowd, called by its number. -/
def crowdMember (n : Nat) : ClassName :=
  ⟨'b' :: Text.hex n, isClassName_of_isMemberName
    ⟨List.cons_ne_nil _ _, Naming.isClean_cons.mpr ⟨by decide, Naming.isClean_hex n⟩⟩⟩

theorem crowdMember_injective {m n : Nat} (h : crowdMember m = crowdMember n) : m = n :=
  Text.hex_injective (List.cons_injective (congrArg ClassName.text h))

/-- The calls for the numbers of all classes of a crowd. -/
def crowdNumbers (size : Nat) : List Call :=
  (List.range size).map fun n => .classNumber (crowdMember n)

@[simp] theorem length_crowdNumbers (size : Nat) : (crowdNumbers size).length = size := by
  simp [crowdNumbers]

theorem nodup_crowdMembers (size : Nat) : ((List.range size).map crowdMember).Nodup :=
  List.nodup_range.map fun _ _ => crowdMember_injective

theorem classes_after_crowdNumbers (size : Nat) :
    (Runs.after call .empty (crowdNumbers size)).classes = (List.range size).map crowdMember := by
  have hmembers : (crowdNumbers size).filterMap Call.class? = (List.range size).map crowdMember := by
    simp [crowdNumbers, List.filterMap_map, Function.comp_def, Call.class?]
  rw [HasSeen.after, hmembers, FirstSeen.eraseDups_of_nodup (nodup_crowdMembers size)]

/-- They have the numbers that they are called by. -/
theorem classId_after_crowdNumbers {size n : Nat} (h : n < size) :
    ((Runs.after call .empty (crowdNumbers size)).classId (crowdMember n)).1 = n := by
  have hlt : n < ((List.range size).map crowdMember).length := by simpa using h
  have hget : ((List.range size).map crowdMember)[n] = crowdMember n := by simp
  rw [classId_eq_idxOf, classes_after_crowdNumbers, ← hget, (nodup_crowdMembers size).idxOf_getElem]

/-- No occurrence of any key is asked for. -/
theorem latest?_after_crowdNumbers (size : Nat) (key : Text) :
    (Runs.after call .empty (crowdNumbers size)).latest? key = none := by
  rw [latest?_after rfl, if_neg]
  simp [crowdNumbers, Call.asksFor, Call.key?]

/-- A handler in one of the classes. -/
def crowdHandler (n : Nat) : Call :=
  .handler (some (Text.ofString "mymod")) (Text.ofString "handler") (Text.ofString "onTick")
    (Text.ofString "()V") (crowdMember n)

/-- One more occurrence of its key. -/
def crowdOccurrence : Call :=
  .request (.digits (Text.ofString "onTick") (Text.ofString "()V") true)

/-- The classes of a crowd are numbered, a handler in one of them is named, its key occurs
some more times, and the handler is named in another class. -/
def crowdCalls (size times first last : Nat) : List Call :=
  crowdNumbers size ++ crowdHandler first ::
    (List.replicate times crowdOccurrence ++ [crowdHandler last])

/-- The name that the handler is given by its numbers. -/
def crowdName (id : Nat) (number : UInt32) : Text :=
  Naming.handlerText (Text.ofString "handler") id number (some (Text.ofString "mymod"))
    (Text.ofString "onTick")

/-- The first name has the number zero in it, -/
theorem outputs_crowdCalls_first {size times first last : Nat} (h : first < size) :
    (Runs.outputs call .empty (crowdCalls size times first last))[size]?
      = some (.text (crowdName first 0)) := by
  have hnext : ∀ key, (Runs.after call .empty (crowdNumbers size)).nextNumber key = 0 := by
    intro key
    rw [nextNumber, occurrence, latest?_after_crowdNumbers]
  have hanswer := Runs.getElem?_outputs_append call .empty (crowdNumbers size)
    (List.replicate times crowdOccurrence ++ [crowdHandler last]) (crowdHandler first)
  rw [length_crowdNumbers, crowdHandler, call_handler_eq, classId_after_crowdNumbers h, hnext]
    at hanswer
  exact hanswer

/-- and the last one counts the other occurrences. -/
theorem outputs_crowdCalls_last {size times first last : Nat} (h : last < size) :
    (Runs.outputs call .empty (crowdCalls size times first last))[size + (times + 1)]?
      = some (.text (crowdName last (UInt32.ofNat times + 1))) := by
  let key := Call.handlerKey (some (Text.ofString "mymod")) (Text.ofString "onTick")
    (Text.ofString "()V")
  let numbered := Runs.after call .empty (crowdNumbers size)
  let occurrences := crowdHandler first :: List.replicate times crowdOccurrence
  have hlatest : (Runs.after call numbered occurrences).latest? key = some (UInt32.ofNat times) := by
    have hcountsFirst : (crowdHandler first).countsFor key = true := Call.countsFor_handler ..
    have hfirst : (numbered.call (crowdHandler first)).2.latest? key = some 0 := by
      rw [latest?_call_of_countsFor _ hcountsFirst, nextNumber, occurrence,
        latest?_after_crowdNumbers]
    have hcounts : (crowdOccurrence.served).countsFor key = true := by decide
    show (Runs.after call (numbered.call (crowdHandler first)).2
      (List.replicate times crowdOccurrence)).latest? key = _
    rw [after_call, latest?_run hfirst, List.map_replicate, List.countP_replicate, if_pos hcounts,
      UInt32.zero_add]
  have hclass : ((Runs.after call numbered occurrences).classId (crowdMember last)).1 = last := by
    have hmem : crowdMember last ∈ numbered.classes := by
      rw [classes_after_crowdNumbers]
      exact List.mem_map_of_mem (List.mem_range.mpr h)
    rw [after_call, classId_of_isPrefix hmem (isPrefix_classes_run _ _),
      classId_after_crowdNumbers h]
  have hanswer := Runs.getElem?_outputs_append call .empty (crowdNumbers size ++ occurrences) []
    (crowdHandler last)
  rw [List.length_append, length_crowdNumbers, List.length_cons, List.length_replicate,
    Runs.after_append, crowdHandler, call_handler_eq, hclass, nextNumber_of_latest? hlatest,
    List.append_assoc] at hanswer
  exact hanswer

/-- In a crowd of 4097 classes, the handler gets one name in two of them: the last letter of the
last class is read as the first digit of the 40961st occurrence. -/
theorem outputs_crowdCalls_coincide :
    let calls := crowdCalls 4097 40959 4096 256
    calls.length < UInt32.size ∧
      calls[4097]? = some (crowdHandler 4096) ∧ calls[45057]? = some (crowdHandler 256) ∧
      (Runs.outputs call .empty calls)[4097]?
        = some (.text (Text.ofString "handler$baaa000$mymod$onTick")) ∧
      (Runs.outputs call .empty calls)[45057]?
        = some (.text (Text.ofString "handler$baaa000$mymod$onTick")) := by
  intro calls
  have hlength : ∀ size times first last,
      (crowdCalls size times first last).length = size + (times + 2) := by
    simp [crowdCalls]
  have hfirst : ∀ size times first last,
      (crowdCalls size times first last)[size]? = some (crowdHandler first) := by
    simp [crowdCalls]
  have hlast : ∀ size times first last,
      (crowdCalls size times first last)[size + (times + 1)]? = some (crowdHandler last) := by
    simp [crowdCalls]
  refine ⟨?_, hfirst 4097 40959 4096 256, hlast 4097 40959 4096 256, ?_, ?_⟩
  · rw [hlength]
    decide
  · rw [outputs_crowdCalls_first (by decide)]
    decide +kernel
  · have houtput := @outputs_crowdCalls_last 4097 40959 4096 256 (by decide)
    rw [show 4097 + (40959 + 1) = 45057 by rfl] at houtput
    rw [houtput]
    decide +kernel

end Registry

end ClassGraft
