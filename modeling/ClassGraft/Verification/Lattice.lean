import ClassGraft.Hierarchy.Search
import ClassGraft.Notice
import ClassGraft.Verification.Type

/-!
# The lattice of verification types

Joins and comparisons of verification types, all answered from a class graph.

* `commonSupertype` joins two types. Primitives join only with themselves and
  with null; classes join at their nearest common ancestor; arrays of classes
  of one depth join element by element; all other arrays have only objects in
  common, as deep as both sides allow.
* `isAssignableFrom` is the strict comparison: the join is the expected type.
* `isSubtypeOf` is what the use of a value requires. It is more lenient where an
  interface is expected: a join never produces an interface unless one side is
  assignable to the other, so any reference of enough depth is let through.
* `Slot.merge` joins what two paths leave in a slot; values that do not go
  together make the slot unusable, which is no error until it is used.
-/

namespace ClassGraft

/-- A question that the verifier cannot answer, or must not. -/
inductive VerifierError where
  /-- The types have nothing in common. -/
  | incompatibleTypes (a b : VerificationType)
  /-- A class whose ancestors matter is not declared. -/
  | missingClass (name : ClassName)
  /-- The class behind a type was asked for, and classes are never loaded. -/
  | liveLoading (type : VerificationType)
  deriving DecidableEq

/-- The wording of a question that has no answer. -/
def VerifierError.message : VerifierError → String
  | incompatibleTypes a b => s!"Incompatible types {a} and {b}"
  | missingClass name => s!"Class {name} is not in the shadow model"
  | liveLoading type =>
    s!"Live-loading of {type} attempted by the offline verifier! This should never happen!"

namespace ClassGraph

/-! ## Joins -/

/-- The join of two classes. -/
def commonClass (g : ClassGraph) (a b : ClassName) : Except VerifierError ClassName :=
  if a = b then .ok a
  else match g.nearestCommonAncestor a b with
    | .ok c => .ok c
    | .error (.missingClass name) => .error (.missingClass name)
    | .error (.duplicateClass name) => .error (.missingClass name)

/-- How many dimensions of objects an array has. The innermost element counts
as one less where it is a primitive, since a primitive is no object. -/
def objectDimensions : RefType ClassName → Nat
  | .object _ => 0
  | .objectArray extra _ => extra + 1
  | .primitiveArray extra _ => extra

/-- The join of two reference types. -/
def commonRefSupertype (g : ClassGraph) (a b : RefType ClassName) :
    Except VerifierError (RefType ClassName) :=
  if a = b then .ok a
  else match a, b with
    | .object c, .object d => (g.commonClass c d).map .object
    | .object _, _ => .ok (.object .object)
    | _, .object _ => .ok (.object .object)
    | .objectArray m c, .objectArray n d =>
      -- Elements join only where both sides are equally deep.
      if m = n then (g.commonClass c d).map (.objectArray m)
      else .ok (VerificationType.objectArray (min m n + 1))
    | a, b =>
      if a.dimensions = b.dimensions then .ok (VerificationType.objectArray (a.dimensions - 1))
      else if a.dimensions < b.dimensions then
        .ok (VerificationType.objectArray (objectDimensions a))
      else .ok (VerificationType.objectArray (objectDimensions b))

/-- The join of two types: the most specific type that both can be used as. -/
def commonSupertype (g : ClassGraph) (a b : VerificationType) :
    Except VerifierError VerificationType :=
  if a = b ∨ b = .null then .ok a
  else if a = .null then .ok b
  else match a, b with
    | .reference r, .reference s => (g.commonRefSupertype r s).map .reference
    | a, b => .error (.incompatibleTypes a b)

/-! ## Comparisons -/

/-- Can a slot of the expected type hold a value of the actual one? Strictly: the
expected type is their join. -/
def isAssignableFrom (g : ClassGraph) (expected actual : VerificationType) : Bool :=
  match g.commonSupertype expected actual with
  | .ok t => t = expected
  | .error _ => false

/-- Is it the type of an interface? Only a declared class can be one. -/
def isInterfaceType (g : ClassGraph) : VerificationType → Bool
  | .reference (.object cls) => g.isInterface cls
  | _ => false

/-- What asking whether a type is an interface leaves in the log. -/
def interfaceNotices (g : ClassGraph) : VerificationType → List Notice
  | .reference (.object cls) =>
    if (g.resolve cls).isNone then [.interfaceUnknown cls] else []
  | _ => []

/-- The class to ask about when a reference is not strictly of the expected type,
and whether a reference is left once the dimensions of the expected type are
taken off the actual one. There is no such class when the expected elements are
primitives or the actual type is not deep enough. -/
def leniency : (expected actual : RefType ClassName) → Option (ClassName × Bool)
  | .object cls, _ => some (cls, true)
  | .primitiveArray .., _ => none
  | .objectArray .., .object _ => none
  | .objectArray m cls, .objectArray n _ => if m ≤ n then some (cls, true) else none
  | .objectArray m cls, .primitiveArray n _ => if m ≤ n then some (cls, m < n) else none

/-- Can a value be used where the expected one is required? -/
def isSubtypeOf (g : ClassGraph) (actual expected : Slot) : Bool :=
  match actual, expected with
  | .uninitialized, .uninitialized => true
  | .typed a, .typed e =>
    match e, a with
    | .reference _, .null => true
    | .reference r, .reference s =>
      g.isAssignableFrom e a ||
        match leniency r s with
        | some (cls, isDeeper) => g.isInterface cls && isDeeper
        | none => false
    | .reference _, _ => false
    | e, a => a = e
  | _, _ => false

/-- What comparing two values leaves in the log: the expected class is looked up
whenever leniency could matter. -/
def subtypeNotices (g : ClassGraph) (actual expected : Slot) : List Notice :=
  match actual, expected with
  | .typed (.reference s), .typed (.reference r) =>
    if g.isAssignableFrom (.reference r) (.reference s) then []
    else match leniency r s with
      | some (cls, _) => g.interfaceNotices (.object cls)
      | none => []
  | _, _ => []

/-! ## Slots -/

/-- What a slot holds where two paths meet. -/
def mergeSlots (g : ClassGraph) (a b : Slot) : Except VerifierError Slot :=
  if a = b then .ok a
  else match a, b with
    | .typed s, .typed t =>
      match g.commonSupertype s t with
      | .ok join => .ok (.typed join)
      | .error (.incompatibleTypes _ _) => .ok .uninitialized
      | .error refusal => .error refusal
    | _, _ => .ok .uninitialized

end ClassGraph

namespace VerificationType

/-- The class behind a type is never loaded: asking for it is refused. -/
def load (t : VerificationType) : Except VerifierError Empty := .error (.liveLoading t)

/-- What asking for the class behind a type leaves in the log. -/
def loadNotices (t : VerificationType) : List Notice := [.liveLoading t.render]

end VerificationType

end ClassGraft
