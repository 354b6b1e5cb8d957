import ClassGraft.Name.Member

/-!
# Class names

The name of a class or an interface is a path of member names joined by
slashes. Everything through the last slash is the package part, the rest is the
simple name.
-/

namespace ClassGraft

/-- The texts that can name a class: not empty, and each part between slashes
can name a member. -/
def IsClassName (t : Text) : Prop := t ≠ [] ∧ ∀ part ∈ Text.splitOn '/' t, IsMemberName part

/-- The test of the rule for classes. -/
def canNameClass (t : Text) : Bool := !t.isEmpty && (Text.splitOn '/' t).all canNameMember

theorem canNameClass_iff (t : Text) : canNameClass t = true ↔ IsClassName t := by
  simp [canNameClass, IsClassName, canNameMember_iff]

instance (t : Text) : Decidable (IsClassName t) := decidable_of_iff _ (canNameClass_iff t)

/-- Name of a class or an interface. -/
structure ClassName where
  /-- The characters of the name. -/
  text : Text
  /-- The characters obey the rule for classes. -/
  valid : IsClassName text
  deriving DecidableEq

namespace ClassName

instance : ToString ClassName := ⟨fun n => Text.toStr n.text⟩

/-- The first rule that a text breaks: an empty text is reported as such, else
the first part that cannot name a member decides. -/
def fault (t : Text) : NameError :=
  if t = [] then .emptyClass
  else match (Text.splitOn '/' t).find? fun part => !canNameMember part with
    | some part => MemberName.fault part
    | none => .emptyClass

/-- The class name with these characters, if they obey the rule. -/
def ofText (t : Text) : Except NameError ClassName :=
  if h : IsClassName t then .ok ⟨t, h⟩ else .error (fault t)

/-- A name is read from exactly its own characters. -/
theorem ofText_eq_ok_iff {t : Text} {n : ClassName} : ofText t = .ok n ↔ t = n.text := by
  constructor
  · intro h
    unfold ofText at h
    split at h
    · cases h
      rfl
    · cases h
  · rintro rfl
    exact dif_pos n.valid

/-- Reading succeeds on the texts that obey the rule. -/
theorem exists_ofText_eq_ok_iff {t : Text} : (∃ n, ofText t = .ok n) ↔ IsClassName t := by
  constructor
  · rintro ⟨n, h⟩
    exact ofText_eq_ok_iff.mp h ▸ n.valid
  · intro h
    exact ⟨⟨t, h⟩, ofText_eq_ok_iff.mpr rfl⟩

/-- Two names with the same characters are the same name. -/
theorem text_injective {m n : ClassName} (h : m.text = n.text) : m = n := by
  cases m
  cases n
  cases h
  rfl

/-! ## Package and simple name -/

/-- The package part of the name, its last slash included; empty in the default
package. -/
def packagePart (n : ClassName) : Text := Text.throughLast '/' n.text

/-- The name without its package part. -/
def simpleName (n : ClassName) : Text := Text.afterLast '/' n.text

/-- Package part and simple name make up the name. -/
theorem packagePart_append_simpleName (n : ClassName) :
    n.packagePart ++ n.simpleName = n.text :=
  Text.throughLast_append_afterLast '/' n.text

/-! ## Names of the standard library -/

/-- The class name spelled by a literal. -/
def literal (s : String) (h : IsClassName s.toList := by decide) : ClassName :=
  ⟨s.toList, h⟩

/-- The root of the hierarchy. -/
def object : ClassName := literal "java/lang/Object"

/-- The interface of things that can be cloned. -/
def cloneable : ClassName := literal "java/lang/Cloneable"

/-- The interface of things that can be serialised. -/
def serializable : ClassName := literal "java/io/Serializable"

/-- The interface of readable character sequences. -/
def charSequence : ClassName := literal "java/lang/CharSequence"

/-- The interface of things with an order. -/
def comparable : ClassName := literal "java/lang/Comparable"

/-- The class of strings. -/
def string : ClassName := literal "java/lang/String"

/-- The class that boxed numbers extend. -/
def number : ClassName := literal "java/lang/Number"

/-- The class of boxed integers. -/
def integer : ClassName := literal "java/lang/Integer"

end ClassName

end ClassGraft
