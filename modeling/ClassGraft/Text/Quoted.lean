import ClassGraft.Text.Hex
import ClassGraft.Text.Shown

/-!
# Quoted text

A text in a diagnostic stands between double quotes. The quote and the
backslash are escaped by a backslash, four controls have a letter of their own,
and every other hidden character is written by its number, so the quoted form
has neither a stray quote nor a character a reader could miss.
-/

namespace ClassGraft.Text

/-- The written form of one character inside quotes. -/
def escape (c : Char) : Text :=
  if c = '"' then ['\\', '"']
  else if c = '\\' then ['\\', '\\']
  else if c = '\n' then ['\\', 'n']
  else if c = '\r' then ['\\', 'r']
  else if c = '\t' then ['\\', 't']
  else if c = '\x00' then ['\\', '0']
  else if isShown c then [c]
  else ['\\', 'u', '\x7b'] ++ hex c.toNat ++ ['\x7d']

/-- The text between double quotes. -/
def quoted (t : Text) : Text := '"' :: t.flatMap escape ++ ['"']

/-- Characters that need no escape stand for themselves. -/
theorem quoted_eq_of_forall {t : Text} (h : ∀ c ∈ t, escape c = [c]) :
    quoted t = '"' :: t ++ ['"'] := by
  have : t.flatMap escape = t := by
    induction t with
    | nil => rfl
    | cons c t ih =>
      rw [List.flatMap_cons, h c List.mem_cons_self,
        ih fun d hd => h d (List.mem_cons_of_mem _ hd)]
      rfl
  rw [quoted, this]

/-- Text of visible ASCII characters is shown as it is. -/
theorem isShown_of_all_ascii {t : Text}
    (h : t.all (fun c => 0x20 ≤ c.toNat && c.toNat < 0x7F) = true) : ∀ c ∈ t, isShown c = true := by
  intro c hc
  have hbounds := List.all_eq_true.mp h c hc
  simp only [Bool.and_eq_true, decide_eq_true_eq] at hbounds
  exact isShown_of_ascii hbounds.1 hbounds.2

theorem isShown_of_mem_hex {n : Nat} {c : Char} (h : c ∈ hex n) : isShown c = true := by
  obtain ⟨d, hd, rfl⟩ := exists_digit_of_mem_base16 h
  have hdigits : ((List.range 16).map hexDigit).all
      (fun c => 0x20 ≤ c.toNat && c.toNat < 0x7F) = true := by
    decide
  exact isShown_of_all_ascii hdigits _ (List.mem_map.mpr ⟨d, List.mem_range.mpr hd, rfl⟩)

/-- Every character is written with characters that are shown as they are. -/
theorem isShown_of_mem_escape (c : Char) : ∀ d ∈ escape c, isShown d = true := by
  unfold escape
  -- The quote, the backslash and the four controls have marks of their own.
  iterate 6
    split
    · exact isShown_of_all_ascii (by decide)
  split
  · next hshown =>
    intro d hd
    exact List.mem_singleton.mp hd ▸ hshown
  · intro d hd
    rcases List.mem_append.mp hd with hd | hd
    · rcases List.mem_append.mp hd with hd | hd
      · exact isShown_of_all_ascii (t := ['\\', 'u', '\x7b']) (by decide) d hd
      · exact isShown_of_mem_hex hd
    · exact isShown_of_all_ascii (t := ['\x7d']) (by decide) d hd

/-- A reader sees every character of the quoted form. -/
theorem isShown_of_mem_quoted {t : Text} {c : Char} (h : c ∈ quoted t) : isShown c = true := by
  have hmark : isShown '"' = true := isShown_of_ascii (by decide) (by decide)
  rw [quoted, List.mem_append, List.mem_cons, List.mem_flatMap, List.mem_singleton] at h
  rcases h with (rfl | ⟨d, -, hd⟩) | rfl
  · exact hmark
  · exact isShown_of_mem_escape d c hd
  · exact hmark

/-- So no control is in it, and it stays on its line. -/
theorem le_toNat_of_mem_quoted {t : Text} {c : Char} (h : c ∈ quoted t) : 0x20 ≤ c.toNat := by
  refine Nat.le_of_not_lt fun hlt => ?_
  have hshown := isShown_of_mem_quoted h
  rw [isShown_eq_false_of_lt hlt] at hshown
  cases hshown

end ClassGraft.Text
