import ClassGraft.Access.Visibility

/-!
# Access flags of methods

The flags are independent of each other, so they are a record of truth values;
the number of a class file is one way to write the record. Bits that stand for
no flag are dropped when such a number is read.
-/

namespace ClassGraft

/-- Access flags of a method. -/
structure MethodFlags where
  isPublic : Bool := false
  isPrivate : Bool := false
  isProtected : Bool := false
  isStatic : Bool := false
  isFinal : Bool := false
  isSynchronized : Bool := false
  isBridge : Bool := false
  isVarargs : Bool := false
  isNative : Bool := false
  isAbstract : Bool := false
  isStrict : Bool := false
  isSynthetic : Bool := false
  deriving DecidableEq, Repr

namespace MethodFlags

/-- The flags that the bits of a number stand for. -/
def ofBits (bits : Nat) : MethodFlags where
  isPublic := bits.testBit 0
  isPrivate := bits.testBit 1
  isProtected := bits.testBit 2
  isStatic := bits.testBit 3
  isFinal := bits.testBit 4
  isSynchronized := bits.testBit 5
  isBridge := bits.testBit 6
  isVarargs := bits.testBit 7
  isNative := bits.testBit 8
  isAbstract := bits.testBit 10
  isStrict := bits.testBit 11
  isSynthetic := bits.testBit 12

/-- The number whose bits stand for the flags. -/
def toBits (f : MethodFlags) : Nat :=
  f.isPublic.toNat <<< 0 ||| f.isPrivate.toNat <<< 1 ||| f.isProtected.toNat <<< 2
    ||| f.isStatic.toNat <<< 3 ||| f.isFinal.toNat <<< 4 ||| f.isSynchronized.toNat <<< 5
    ||| f.isBridge.toNat <<< 6 ||| f.isVarargs.toNat <<< 7 ||| f.isNative.toNat <<< 8
    ||| f.isAbstract.toNat <<< 10 ||| f.isStrict.toNat <<< 11 ||| f.isSynthetic.toNat <<< 12

/-- Flags read back from the number that stands for them. -/
theorem ofBits_toBits (f : MethodFlags) : ofBits f.toBits = f := by
  -- Each flag is the only one that has a part in its bit.
  simp [ofBits, toBits, Nat.testBit_bool_toNat, -Nat.testBit_zero]

/-- The visibility that the flags describe. -/
def visibility (f : MethodFlags) : Visibility :=
  .ofFlags f.isPublic f.isProtected f.isPrivate

/-- The flags with another visibility, and nothing else changed. -/
def withVisibility (f : MethodFlags) (v : Visibility) : MethodFlags :=
  { f with
    isPublic := v == .publicAccess
    isProtected := v == .protectedAccess
    isPrivate := v == .privateAccess }

/-- The visibility asked for is the visibility described. -/
theorem visibility_withVisibility (f : MethodFlags) (v : Visibility) :
    (f.withVisibility v).visibility = v := by
  cases v <;> rfl

end MethodFlags

end ClassGraft
