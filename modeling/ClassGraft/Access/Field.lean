import ClassGraft.Access.Visibility

/-!
# Access flags of fields

As for methods: a record of truth values, and the number of a class file as one
way to write it.
-/

namespace ClassGraft

/-- Access flags of a field. -/
structure FieldFlags where
  isPublic : Bool := false
  isPrivate : Bool := false
  isProtected : Bool := false
  isStatic : Bool := false
  isFinal : Bool := false
  isVolatile : Bool := false
  isTransient : Bool := false
  isSynthetic : Bool := false
  isEnum : Bool := false
  deriving DecidableEq, Repr

namespace FieldFlags

/-- The flags that the bits of a number stand for. -/
def ofBits (bits : Nat) : FieldFlags where
  isPublic := bits.testBit 0
  isPrivate := bits.testBit 1
  isProtected := bits.testBit 2
  isStatic := bits.testBit 3
  isFinal := bits.testBit 4
  isVolatile := bits.testBit 6
  isTransient := bits.testBit 7
  isSynthetic := bits.testBit 12
  isEnum := bits.testBit 14

/-- The number whose bits stand for the flags. -/
def toBits (f : FieldFlags) : Nat :=
  f.isPublic.toNat <<< 0 ||| f.isPrivate.toNat <<< 1 ||| f.isProtected.toNat <<< 2
    ||| f.isStatic.toNat <<< 3 ||| f.isFinal.toNat <<< 4 ||| f.isVolatile.toNat <<< 6
    ||| f.isTransient.toNat <<< 7 ||| f.isSynthetic.toNat <<< 12 ||| f.isEnum.toNat <<< 14

/-- Flags read back from the number that stands for them. -/
theorem ofBits_toBits (f : FieldFlags) : ofBits f.toBits = f := by
  -- Each flag is the only one that has a part in its bit.
  simp [ofBits, toBits, Nat.testBit_bool_toNat, -Nat.testBit_zero]

/-- The visibility that the flags describe. -/
def visibility (f : FieldFlags) : Visibility :=
  .ofFlags f.isPublic f.isProtected f.isPrivate

/-- Are the flags those of a constant that everyone sees? -/
def isPublicConstant (f : FieldFlags) : Bool := f.isPublic && f.isStatic && f.isFinal

end FieldFlags

end ClassGraft
