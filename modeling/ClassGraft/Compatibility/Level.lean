import ClassGraft.Text.Blank
import ClassGraft.Text.Decimal

/-!
# Compatibility levels

A level stands for what a runtime understands. Levels are ordered by the number
of the release that introduced them, and every level understands what the levels
below it do.
-/

namespace ClassGraft

/-- Compatibility levels. -/
inductive Level where
  | java6
  | java7
  | java8
  | java9
  | java11
  | java16
  | java17
  | java21
  deriving DecidableEq, Repr

namespace Level

/-- The number of the release. -/
def rank : Level → Nat
  | java6 => 6
  | java7 => 7
  | java8 => 8
  | java9 => 9
  | java11 => 11
  | java16 => 16
  | java17 => 17
  | java21 => 21

instance : LE Level := ⟨fun a b => a.rank ≤ b.rank⟩

instance : LT Level := ⟨fun a b => a.rank < b.rank⟩

instance (a b : Level) : Decidable (a ≤ b) := inferInstanceAs (Decidable (a.rank ≤ b.rank))

instance (a b : Level) : Decidable (a < b) := inferInstanceAs (Decidable (a.rank < b.rank))

instance : Ord Level := ⟨fun a b => compare a.rank b.rank⟩

theorem le_def {a b : Level} : a ≤ b ↔ a.rank ≤ b.rank := Iff.rfl

theorem lt_def {a b : Level} : a < b ↔ a.rank < b.rank := Iff.rfl

theorem rank_injective {a b : Level} (h : a.rank = b.rank) : a = b := by
  cases a <;> cases b <;> first | rfl | cases h

/-- All levels, from the lowest to the highest. -/
def all : List Level := [java6, java7, java8, java9, java11, java16, java17, java21]

instance : ToString Level := ⟨fun l => s!"JAVA_{l.rank}"⟩

/-- A text that names no level. -/
structure ParseError where
  /-- The text as it was given. -/
  text : Text
  deriving DecidableEq, Repr

/-- The wording of a text that names no level. -/
def ParseError.message (e : ParseError) : String :=
  let shown := Text.toStr e.text
  s!"Unknown compatibility level '{shown}'"

/-- May the character stand in front of a level's number? -/
def isLabel (c : Char) : Bool := c.isAlpha || c == '_'

/-- The level that a text names: blanks around it and letters or underscores in
front of the number do not matter, so `JAVA_8`, `java8` and `8` are the same. -/
def parse (t : Text) : Except ParseError Level :=
  match (Text.unsigned? ((Text.trim t).dropWhile isLabel)).bind
      fun n => all.find? fun l => l.rank == n with
  | some l => .ok l
  | none => .error ⟨t⟩

/-- A level is read from its own name. -/
theorem parse_toString (l : Level) : parse (toString l).toList = .ok l := by
  cases l <;> rfl

end Level

end ClassGraft
