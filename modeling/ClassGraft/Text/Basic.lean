/-!
# Text as a list of characters

Names, descriptors and session ids are taken apart and glued together all the
time, so the library works on their characters directly and turns them into
strings only when a message is written.

A few rules here are about bytes: a session id is cut at a byte position of its
UTF-8 form. `Text.dropBytes?` states that cut without building the bytes, and
refuses it where it would fall inside a character.
-/

namespace ClassGraft

/-- A text is the sequence of its characters. -/
abbrev Text := List Char

namespace Text

/-- The text of a string. -/
abbrev ofString (s : String) : Text := s.toList

/-- The string with these characters. -/
abbrev toStr (t : Text) : String := String.ofList t

/-! ## Positions in bytes -/

/-- Number of bytes of the UTF-8 form. -/
def utf8Length : Text → Nat
  | [] => 0
  | c :: t => c.utf8Size + utf8Length t

/-- What is left after the first `n` bytes of the UTF-8 form. There is no such
rest when the text is shorter, or when the cut would fall inside a character. -/
def dropBytes? : Nat → Text → Option Text
  | 0, t => some t
  | _ + 1, [] => none
  | n + 1, c :: t =>
    if c.utf8Size ≤ n + 1 then dropBytes? (n + 1 - c.utf8Size) t else none

/-- A cut leaves a tail: what is dropped has exactly `n` bytes. -/
theorem dropBytes?_eq_some {n : Nat} {t rest : Text} (h : dropBytes? n t = some rest) :
    ∃ front : Text, t = front ++ rest ∧ utf8Length front = n := by
  induction t generalizing n with
  | nil =>
    cases n with
    | zero =>
      obtain rfl : rest = [] := by simpa [dropBytes?] using h.symm
      exact ⟨[], rfl, rfl⟩
    | succ n => simp [dropBytes?] at h
  | cons c t ih =>
    cases n with
    | zero =>
      obtain rfl : rest = c :: t := by simpa [dropBytes?] using h.symm
      exact ⟨[], rfl, rfl⟩
    | succ n =>
      rw [dropBytes?] at h
      split at h
      · next hc =>
        -- The character fits into the bytes to drop, so it goes in front of what is dropped.
        obtain ⟨front, rfl, hlen⟩ := ih h
        refine ⟨c :: front, rfl, ?_⟩
        rw [utf8Length, hlen]
        omega
      · exact absurd h (by simp)

/-- A cut behind whole characters leaves the others. -/
theorem dropBytes?_utf8Length (front rest : Text) :
    dropBytes? (utf8Length front) (front ++ rest) = some rest := by
  induction front with
  | nil => exact dropBytes?.eq_1 rest
  | cons c front ih =>
      obtain ⟨n, hn⟩ : ∃ n, utf8Length (c :: front) = n + 1 :=
        Nat.exists_eq_add_one.mpr (Nat.add_pos_left c.utf8Size_pos _)
      have hsize : n + 1 = c.utf8Size + utf8Length front := hn.symm
      rw [hn, List.cons_append, dropBytes?, if_pos (by omega), hsize, Nat.add_sub_cancel_left, ih]

/-! ## Pieces between separators -/

/-- The pieces between the characters that `sep` accepts, in order, empty
pieces included. There is always at least one. -/
def splitWhere (sep : Char → Bool) : Text → List Text
  | [] => [[]]
  | c :: t =>
    if sep c then [] :: splitWhere sep t
    else match splitWhere sep t with
      | [] => [[c]]
      | piece :: pieces => (c :: piece) :: pieces

/-- The pieces between the occurrences of one character. -/
def splitOn (sep : Char) (t : Text) : List Text := splitWhere (· == sep) t

/-- The pieces are those of the library. -/
theorem splitWhere_eq_splitOnP (sep : Char → Bool) (t : Text) :
    splitWhere sep t = t.splitOnP sep := by
  induction t with
  | nil => rfl
  | cons c t ih =>
    rw [splitWhere, List.splitOnP_cons_eq_if_modifyHead, ih]
    cases h : t.splitOnP sep with
    | nil => exact absurd h (List.splitOnP_ne_nil sep t)
    | cons piece pieces => rfl

theorem splitOn_eq_splitOn (sep : Char) (t : Text) : splitOn sep t = List.splitOn sep t :=
  splitWhere_eq_splitOnP (· == sep) t

/-- A text without separators is one piece. -/
theorem splitOn_of_not_mem {sep : Char} {t : Text} (h : sep ∉ t) : splitOn sep t = [t] := by
  rw [splitOn_eq_splitOn, List.splitOn_eq_singleton h]

/-- A separator stands between the pieces of two texts. -/
theorem splitOn_append_cons (sep : Char) (s t : Text) :
    splitOn sep (s ++ sep :: t) = splitOn sep s ++ splitOn sep t := by
  simp only [splitOn_eq_splitOn, List.splitOn_append_cons_self]

/-- Texts with the same pieces are the same. -/
theorem splitOn_inj {sep : Char} {s t : Text} : splitOn sep s = splitOn sep t ↔ s = t := by
  constructor
  · intro h
    rw [splitOn_eq_splitOn, splitOn_eq_splitOn] at h
    simpa using congrArg [sep].intercalate h
  · exact congrArg (splitOn sep)

theorem splitWhere_ne_nil (sep : Char → Bool) (t : Text) : splitWhere sep t ≠ [] := by
  rw [splitWhere_eq_splitOnP]
  exact List.splitOnP_ne_nil sep t

/-- A character that is no separator is in one of the pieces. -/
theorem exists_mem_splitWhere {sep : Char → Bool} {t : Text} {c : Char} (hc : c ∈ t)
    (hsep : sep c = false) : ∃ piece ∈ splitWhere sep t, c ∈ piece := by
  induction t with
  | nil => cases hc
  | cons d t ih =>
    rw [splitWhere]
    split
    · next hd =>
      rcases List.mem_cons.mp hc with rfl | hc
      · rw [hsep] at hd
        cases hd
      · obtain ⟨piece, hp, hmem⟩ := ih hc
        exact ⟨piece, List.mem_cons_of_mem _ hp, hmem⟩
    · split
      · next heq => exact absurd heq (splitWhere_ne_nil sep t)
      · next first others heq =>
        rcases List.mem_cons.mp hc with rfl | hc
        · exact ⟨c :: first, List.mem_cons_self, List.mem_cons_self⟩
        · obtain ⟨piece, hp, hmem⟩ := ih hc
          rw [heq] at hp
          rcases List.mem_cons.mp hp with rfl | hp
          · exact ⟨d :: piece, List.mem_cons_self, List.mem_cons_of_mem _ hmem⟩
          · exact ⟨piece, List.mem_cons_of_mem _ hp, hmem⟩

/-! ## The part after the last occurrence of a character -/

/-- Everything after the last `sep`, or the whole text when there is none. -/
def afterLast (sep : Char) (t : Text) : Text :=
  (t.reverse.takeWhile (· != sep)).reverse

/-- Everything up to the last `sep`, that one included; nothing when there is none. -/
def throughLast (sep : Char) (t : Text) : Text :=
  (t.reverse.dropWhile (· != sep)).reverse

/-- The two parts lose nothing. -/
theorem throughLast_append_afterLast (sep : Char) (t : Text) :
    throughLast sep t ++ afterLast sep t = t := by
  rw [throughLast, afterLast, ← List.reverse_append, List.takeWhile_append_dropWhile,
    List.reverse_reverse]

/-- The last part holds no separator. -/
theorem not_mem_afterLast (sep : Char) (t : Text) : sep ∉ afterLast sep t := by
  intro h
  have hall : (t.reverse.takeWhile (· != sep)).all (· != sep) = true :=
    List.all_takeWhile
  have hmem : sep ∈ t.reverse.takeWhile (· != sep) := by simpa [afterLast] using h
  simpa using List.all_eq_true.mp hall sep hmem

/-- The front part is empty, or it ends with the separator. -/
theorem throughLast_cases (sep : Char) (t : Text) :
    throughLast sep t = [] ∨ ∃ front, throughLast sep t = front ++ [sep] := by
  have hhead := List.head?_dropWhile_not (· != sep) t.reverse
  cases h : t.reverse.dropWhile (· != sep) with
  | nil => exact Or.inl (by rw [throughLast, h]; rfl)
  | cons c front =>
    obtain rfl : c = sep := by simpa [h] using hhead
    exact Or.inr ⟨front.reverse, by rw [throughLast, h, List.reverse_cons]⟩

/-- What is behind the last separator does not count for it. -/
theorem throughLast_append {sep : Char} (front : Text) {last : Text} (h : sep ∉ last) :
    throughLast sep (front ++ last) = throughLast sep front := by
  have hall : ∀ c ∈ last.reverse, (c != sep) = true := by
    intro c hc
    have hne : c ≠ sep := fun heq => h (heq ▸ List.mem_reverse.mp hc)
    simpa using hne
  rw [throughLast, List.reverse_append, List.dropWhile_append_of_pos hall, throughLast]

theorem throughLast_of_not_mem {sep : Char} {t : Text} (h : sep ∉ t) : throughLast sep t = [] :=
  throughLast_append [] h

theorem throughLast_concat (sep : Char) (front : Text) :
    throughLast sep (front ++ [sep]) = front ++ [sep] := by
  rw [throughLast, List.reverse_concat, List.dropWhile_cons_of_neg (by simp), List.reverse_cons,
    List.reverse_reverse]

end Text

end ClassGraft
