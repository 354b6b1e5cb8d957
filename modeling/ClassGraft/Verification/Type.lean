import ClassGraft.Descriptor.Basic

/-!
# Verification types

What a verifier knows about a value: the small integers are all one type, the
null constant has a type of its own, and everything else is as in descriptors. A
slot of the stack or of the local variables holds such a type or nothing usable.
-/

namespace ClassGraft

/-- Types that a verifier tells apart. -/
inductive VerificationType where
  | integer
  | float
  | double
  | long
  /-- The type of the null constant. -/
  | null
  /-- A class, an interface or an array. -/
  | reference (type : RefType ClassName)
  deriving DecidableEq

namespace VerificationType

/-- The plain class type. -/
def object (cls : ClassName) : VerificationType := .reference (.object cls)

/-- Arrays of objects with as many dimensions; the root class for none. -/
def objectArray : Nat → RefType ClassName
  | 0 => .object .object
  | n + 1 => .objectArray n .object

/-- Is it the type of a reference? -/
def isReference : VerificationType → Bool
  | null => true
  | reference _ => true
  | _ => false

/-- How a verifier sees a variable of the type. -/
def ofFieldType : FieldType ClassName → VerificationType
  | .primitive .float => .float
  | .primitive .long => .long
  | .primitive .double => .double
  | .primitive _ => .integer
  | .ref type => .reference type

/-- The type as it is written: a descriptor, or `null`. -/
def render : VerificationType → Text
  | integer => ['I']
  | float => ['F']
  | double => ['D']
  | long => ['J']
  | null => ['n', 'u', 'l', 'l']
  | reference type => type.render

instance : ToString VerificationType := ⟨fun t => Text.toStr t.render⟩

@[simp] theorem dimensions_objectArray (n : Nat) : (objectArray n).dimensions = n := by
  cases n <;> rfl

end VerificationType

/-- What a slot of the stack or of the local variables holds. -/
inductive Slot where
  /-- Nothing usable, because incompatible values met here. -/
  | uninitialized
  | typed (type : VerificationType)
  deriving DecidableEq

end ClassGraft
