import ClassGraft.Descriptor.Primitive
import ClassGraft.Name.Class

/-!
# Types and their descriptors

A reference type is a class, an array of a class, or an array of a primitive.
Arrays keep how many dimensions they have beyond the first, so every value of
`RefType` is a type and no two values are the same type. Types are generic in
what stands for a class, which lets `map` rename classes.

`render` writes the descriptor of a type whose classes are class names.
-/

namespace ClassGraft

/-- Reference types over the classes `C`. Depths are natural numbers, without the
largest one that a machine word has and that a dimension cannot be added to.
Types that were read have fewer dimensions than there were characters
(`FieldType.dimensions_lt_of_read`), and joins are no deeper than what is joined
(`ClassGraph.dimensions_le_of_commonRefSupertype`), so a word would differ only
for types that were not read but built as deep as that. -/
inductive RefType (C : Type) where
  /-- A class or an interface. -/
  | object (cls : C)
  /-- An array of a class with `extra + 1` dimensions. -/
  | objectArray (extra : Nat) (cls : C)
  /-- An array of a primitive with `extra + 1` dimensions. -/
  | primitiveArray (extra : Nat) (element : Primitive)
  deriving DecidableEq

/-- Types of variables over the classes `C`. -/
inductive FieldType (C : Type) where
  | primitive (type : Primitive)
  | ref (type : RefType C)
  deriving DecidableEq

/-- Types of methods over the classes `C`. -/
structure MethodType (C : Type) where
  /-- Types of the parameters, in order. -/
  parameters : List (FieldType C)
  /-- Type of the result; none for methods that return nothing. -/
  result : Option (FieldType C)
  deriving DecidableEq

/-! ## Arrays -/

namespace RefType

variable {C D : Type}

/-- Number of array dimensions; zero for a class. -/
def dimensions : RefType C → Nat
  | object _ => 0
  | objectArray extra _ => extra + 1
  | primitiveArray extra _ => extra + 1

/-- The innermost element of an array, and the type itself when it is a class. -/
def elementType : RefType C → FieldType C
  | object cls => .ref (.object cls)
  | objectArray _ cls => .ref (.object cls)
  | primitiveArray _ element => .primitive element

/-- The same type over other classes. -/
def map (f : C → D) : RefType C → RefType D
  | object cls => .object (f cls)
  | objectArray extra cls => .objectArray extra (f cls)
  | primitiveArray extra element => .primitiveArray extra element

end RefType

namespace FieldType

variable {C D : Type}

/-- The plain class type. -/
def object (cls : C) : FieldType C := .ref (.object cls)

/-- The reference type of arrays whose elements have the given type. -/
def arrayRef : FieldType C → RefType C
  | primitive element => .primitiveArray 0 element
  | ref (.object cls) => .objectArray 0 cls
  | ref (.objectArray extra cls) => .objectArray (extra + 1) cls
  | ref (.primitiveArray extra element) => .primitiveArray (extra + 1) element

/-- The type of arrays whose elements have the given type. -/
def array (t : FieldType C) : FieldType C := .ref t.arrayRef

/-- The type with as many array dimensions put around it. -/
def arrayOf (t : FieldType C) : Nat → FieldType C
  | 0 => t
  | n + 1 => (t.arrayOf n).array

/-- The same type over other classes. -/
def map (f : C → D) : FieldType C → FieldType D
  | primitive type => .primitive type
  | ref type => .ref (type.map f)

end FieldType

namespace MethodType

/-- Does the method take nothing and return nothing? A static initialiser has no
other type. -/
def isNullaryVoid {C : Type} (t : MethodType C) : Bool :=
  t.parameters.isEmpty && t.result.isNone

end MethodType

/-! ## Descriptors -/

/-- The descriptor of a class. -/
def ClassName.render (n : ClassName) : Text := 'L' :: n.text ++ [';']

/-- The descriptor of a reference type. -/
def RefType.render : RefType ClassName → Text
  | object cls => cls.render
  | objectArray extra cls => List.replicate (extra + 1) '[' ++ cls.render
  | primitiveArray extra element => List.replicate (extra + 1) '[' ++ [element.letter]

/-- The descriptor of a type. -/
def FieldType.render : FieldType ClassName → Text
  | primitive type => [type.letter]
  | ref type => type.render

/-- What a method's descriptor says about its result; `V` for nothing. -/
def MethodType.renderResult : Option (FieldType ClassName) → Text
  | none => ['V']
  | some t => t.render

/-- The descriptor of a method. -/
def MethodType.render (t : MethodType ClassName) : Text :=
  '(' :: t.parameters.flatMap FieldType.render ++ ')' :: renderResult t.result

end ClassGraft
