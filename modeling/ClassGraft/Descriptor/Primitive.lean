import ClassGraft.Text.Basic

/-!
# Primitive types

The eight primitive value types and the letter that stands for each in a
descriptor. The letters are distinct, so a letter reads back as its type.
-/

namespace ClassGraft

/-- Primitive value types. -/
inductive Primitive where
  | byte
  | char
  | double
  | float
  | int
  | long
  | short
  | boolean
  deriving DecidableEq, Repr

namespace Primitive

/-- The letter of the type in descriptors. -/
def letter : Primitive → Char
  | byte => 'B'
  | char => 'C'
  | double => 'D'
  | float => 'F'
  | int => 'I'
  | long => 'J'
  | short => 'S'
  | boolean => 'Z'

/-- The type that a letter stands for. -/
def ofLetter? (c : Char) : Option Primitive :=
  if c = 'B' then some byte
  else if c = 'C' then some char
  else if c = 'D' then some double
  else if c = 'F' then some float
  else if c = 'I' then some int
  else if c = 'J' then some long
  else if c = 'S' then some short
  else if c = 'Z' then some boolean
  else none

/-- A letter stands for a type exactly when it is that type's letter. -/
theorem ofLetter?_eq_some_iff {c : Char} {p : Primitive} :
    ofLetter? c = some p ↔ c = p.letter := by
  constructor
  · intro h
    unfold ofLetter? at h
    repeat' split at h
    all_goals first
      | (cases h; assumption)
      | cases h
  · rintro rfl
    cases p <;> decide

/-- The name under which the type is shown. -/
def name : Primitive → String
  | byte => "Byte"
  | char => "Char"
  | double => "Double"
  | float => "Float"
  | int => "Int"
  | long => "Long"
  | short => "Short"
  | boolean => "Boolean"

end Primitive

end ClassGraft
