import ClassGraft.Name.Basic

/-!
# Member names

The name of a method or a field is any text that is not empty and holds none of
the four characters that descriptors and class names use as punctuation. A
`MemberName` carries the proof, so no later step has to check again.
-/

namespace ClassGraft

/-- Is the character punctuation that no member name may hold? -/
def isReserved (c : Char) : Bool := c == '.' || c == ';' || c == '[' || c == '/'

/-- The texts that can name a member. -/
def IsMemberName (t : Text) : Prop := t ≠ [] ∧ ∀ c ∈ t, isReserved c = false

/-- The test of the rule for members. -/
def canNameMember (t : Text) : Bool := !t.isEmpty && t.all fun c => !isReserved c

theorem canNameMember_iff (t : Text) : canNameMember t = true ↔ IsMemberName t := by
  simp [canNameMember, IsMemberName]

instance (t : Text) : Decidable (IsMemberName t) := decidable_of_iff _ (canNameMember_iff t)

/-- Name of a method or a field. -/
structure MemberName where
  /-- The characters of the name. -/
  text : Text
  /-- The characters obey the rule for members. -/
  valid : IsMemberName text
  deriving DecidableEq

namespace MemberName

instance : ToString MemberName := ⟨fun n => Text.toStr n.text⟩

/-- The first rule that a text breaks: a reserved character is reported before
emptiness, which such a text cannot have anyway. -/
def fault (t : Text) : NameError :=
  if t.any isReserved then .reservedCharacter t else .emptyMember

/-- The member name with these characters, if they obey the rule. -/
def ofText (t : Text) : Except NameError MemberName :=
  if h : IsMemberName t then .ok ⟨t, h⟩ else .error (fault t)

/-- A name is read from exactly its own characters. -/
theorem ofText_eq_ok_iff {t : Text} {n : MemberName} : ofText t = .ok n ↔ t = n.text := by
  constructor
  · intro h
    unfold ofText at h
    split at h
    · cases h
      rfl
    · cases h
  · rintro rfl
    exact dif_pos n.valid

/-- Reading succeeds on the texts that obey the rule. -/
theorem exists_ofText_eq_ok_iff {t : Text} : (∃ n, ofText t = .ok n) ↔ IsMemberName t := by
  constructor
  · rintro ⟨n, h⟩
    exact ofText_eq_ok_iff.mp h ▸ n.valid
  · intro h
    exact ⟨⟨t, h⟩, ofText_eq_ok_iff.mpr rfl⟩

/-- Two names with the same characters are the same name. -/
theorem text_injective {m n : MemberName} (h : m.text = n.text) : m = n := by
  cases m
  cases n
  cases h
  rfl

/-- The member name spelled by a literal. -/
def literal (s : String) (h : IsMemberName s.toList := by decide) : MemberName :=
  ⟨s.toList, h⟩

/-- Name of constructors. -/
def constructor : MemberName := literal "<init>"

/-- Name of static initialisers. -/
def staticInitialiser : MemberName := literal "<clinit>"

/-- The accessor through which a mixin reaches the superclass of its target. It
has a meaning only where the target is a class. -/
def imaginarySuper : MemberName := literal "super$"

end MemberName

end ClassGraft
