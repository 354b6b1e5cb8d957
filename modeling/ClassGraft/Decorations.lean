/-!
# Decorations

Free-form notes attached to a class or to a configuration. A key is written
once: later values for it are refused, and the first one stays for ever.
-/

namespace ClassGraft

/-- Write-once notes, in the order in which they were made. -/
structure Decorations where
  /-- Keys with their values. -/
  entries : List (String × String) := []
  deriving DecidableEq

namespace Decorations

/-- The value of a key. -/
def get? (d : Decorations) (key : String) : Option String := d.entries.lookup key

/-- Has the key no value yet? -/
def isFree (d : Decorations) (key : String) : Bool := (d.get? key).isNone

/-- Give a key its value, unless it has one. -/
def put (d : Decorations) (key value : String) : Decorations :=
  if d.isFree key then ⟨d.entries ++ [(key, value)]⟩ else d

/-- A key keeps its value; a free key takes the new one; no other key notices. -/
theorem get?_put (d : Decorations) (key value other : String) :
    (d.put key value).get? other
      = if other = key then some ((d.get? key).getD value) else d.get? other := by
  unfold put isFree get?
  cases hkey : d.entries.lookup key with
  | some v =>
    simp only [Option.isNone_some, Bool.false_eq_true, if_false, Option.getD_some]
    split
    · next h => rw [h, hkey]
    · rfl
  | none =>
    simp only [Option.isNone_none, if_true, Option.getD_none]
    rw [List.lookup_append]
    split
    · next h => subst h; simp [hkey]
    · next h =>
      have : (other == key) = false := by simpa using h
      simp [List.lookup_cons, List.lookup_nil, this]

end Decorations

end ClassGraft
