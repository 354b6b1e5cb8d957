import ClassGraft.Access.Field
import ClassGraft.Access.Method
import ClassGraft.Descriptor.Basic

/-!
# Targets

A target is a class or an interface that mixins are merged into. Its members are
lists, because their order matters; a member is found by name and type, and the
first one with them counts.
-/

namespace ClassGraft

/-- Classes and interfaces take members by different rules. -/
inductive TargetKind where
  | cls
  | interface
  deriving DecidableEq, Repr

/-- A field of a target. -/
structure TargetField where
  name : MemberName
  type : FieldType ClassName
  flags : FieldFlags
  deriving DecidableEq

/-- A method of a target. -/
structure TargetMethod where
  name : MemberName
  type : MethodType ClassName
  flags : MethodFlags
  /-- The mixin that the method was merged from, if any. -/
  mergedFrom : Option ClassName := none
  deriving DecidableEq

/-- A class or an interface that mixins are merged into. -/
structure Target where
  name : ClassName
  kind : TargetKind
  interfaces : List ClassName := []
  fields : List TargetField := []
  methods : List TargetMethod := []
  deriving DecidableEq

namespace TargetField

/-- Does the field have this name and type? -/
def isAt (f : TargetField) (name : MemberName) (type : FieldType ClassName) : Bool :=
  f.name == name && f.type == type

end TargetField

namespace TargetMethod

/-- Does the method have this name and type? -/
def isAt (m : TargetMethod) (name : MemberName) (type : MethodType ClassName) : Bool :=
  m.name == name && m.type == type

end TargetMethod

namespace Target

/-- Is the target an interface? -/
def isInterface (t : Target) : Bool := t.kind == .interface

/-- The first field with this name and type. -/
def field? (t : Target) (name : MemberName) (type : FieldType ClassName) :
    Option TargetField :=
  t.fields.find? fun f => f.isAt name type

/-- The position of the first method with this name and type. -/
def methodIndex? (t : Target) (name : MemberName) (type : MethodType ClassName) : Option Nat :=
  t.methods.findIdx? fun m => m.isAt name type

/-- Is there a method with this name and type? -/
def hasMethod (t : Target) (name : MemberName) (type : MethodType ClassName) : Bool :=
  t.methods.any fun m => m.isAt name type

/-- Is there a field with this name, whatever its type? -/
def hasFieldNamed (t : Target) (name : MemberName) : Bool :=
  t.fields.any fun f => f.name == name

/-- Add an interface at the end of the list. -/
def pushInterface (t : Target) (i : ClassName) : Target :=
  { t with interfaces := t.interfaces ++ [i] }

/-- Add a field at the end of the list. -/
def pushField (t : Target) (f : TargetField) : Target := { t with fields := t.fields ++ [f] }

/-- Take the final flag off the first field with this name and type. -/
def unfinaliseField (t : Target) (name : MemberName) (type : FieldType ClassName) : Target :=
  { t with
    fields := t.fields.modify (t.fields.findIdx fun f => f.isAt name type) fun f =>
      { f with flags := { f.flags with isFinal := false } } }

/-- Put a method in the place of the first one with its name and type, or at the
end of the list when there is none. -/
def putMethod (t : Target) (m : TargetMethod) : Target :=
  match t.methodIndex? m.name m.type with
  | some i => { t with methods := t.methods.set i m }
  | none => { t with methods := t.methods ++ [m] }

end Target

end ClassGraft
