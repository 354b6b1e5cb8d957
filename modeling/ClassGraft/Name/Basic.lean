import ClassGraft.Text.Basic

/-!
# Why a text is not a name

Members (methods and fields) and classes have their own rules for names. The
ways of breaking them are collected here, with the wording of each.
-/

namespace ClassGraft

/-- A text that cannot be the name it was given for. -/
inductive NameError where
  /-- A member name, or a part of a class name, holds a reserved character. -/
  | reservedCharacter (name : Text)
  /-- A member name, or a part of a class name, is empty. -/
  | emptyMember
  /-- A class name is empty. -/
  | emptyClass
  deriving DecidableEq, Repr

/-- The wording of a broken rule. -/
def NameError.message : NameError → String
  | .reservedCharacter name =>
    let shown := Text.toStr name
    s!"Unqualified name '{shown}' contains an illegal character"
  | .emptyMember => "Unqualified name '' is empty"
  | .emptyClass => "Binary name '' is empty"

end ClassGraft
