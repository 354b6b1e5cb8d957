/-!
# Visibility

How far a member can be seen. The four visibilities are ordered from the least
to the most visible.
-/

namespace ClassGraft

/-- Visibility of a member. -/
inductive Visibility where
  | privateAccess
  | packageAccess
  | protectedAccess
  | publicAccess
  deriving DecidableEq, Repr

namespace Visibility

/-- Position in the order from the least to the most visible. -/
def rank : Visibility → Nat
  | privateAccess => 0
  | packageAccess => 1
  | protectedAccess => 2
  | publicAccess => 3

instance : Ord Visibility := ⟨fun a b => compare a.rank b.rank⟩

/-- Visibilities of the same rank are the same. -/
theorem rank_injective {a b : Visibility} (h : a.rank = b.rank) : a = b := by
  cases a <;> cases b <;> first | rfl | cases h

/-- All visibilities, from the least to the most visible. -/
def all : List Visibility := [privateAccess, packageAccess, protectedAccess, publicAccess]

/-- The visibility that the three flags describe. Where several are set, public
wins over protected, and protected over private; where none is, the member is
visible in its package. -/
def ofFlags (isPublic isProtected isPrivate : Bool) : Visibility :=
  if isPublic then publicAccess
  else if isProtected then protectedAccess
  else if isPrivate then privateAccess
  else packageAccess

end Visibility

end ClassGraft
