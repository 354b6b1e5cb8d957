import ClassGraft.Access.Field
import ClassGraft.Access.Method
import ClassGraft.Descriptor.Basic
import ClassGraft.Mixin.Config
import ClassGraft.Mixin.Role

/-!
# Mixins

A mixin is a class whose members are to be merged into other classes. Besides
name, type and flags, each member says what it is for, and carries the marks
that the merging rules look at.
-/

namespace ClassGraft

/-- A field of a mixin. -/
structure MixinField where
  name : MemberName
  type : FieldType ClassName
  flags : FieldFlags
  role : Role
  /-- Marked as writable although the field of the target is final. -/
  isMutable : Bool := false
  /-- Prefix declared for the shadow; none for the default one. -/
  declaredPrefix : Option Text := none
  /-- Does the field carry a constant that a compiler may have inlined? -/
  hasConstant : Bool := false
  deriving DecidableEq

namespace MixinField

/-- The prefix of shadows that declare none. -/
def defaultShadowPrefix : Text := Text.ofString "shadow$"

/-- The prefix that marks the field as a shadow by its name. -/
def shadowPrefix (f : MixinField) : Text := f.declaredPrefix.getD defaultShadowPrefix

/-- Does the name of the field start with its shadow prefix? An empty prefix
marks nothing. -/
def isPrefixed (f : MixinField) : Bool :=
  !f.shadowPrefix.isEmpty && f.shadowPrefix.isPrefixOf f.name.text

/-- Name and type of the field, as messages show them. -/
def signature (f : MixinField) : Text := f.name.text ++ ':' :: f.type.render

end MixinField

/-- A method of a mixin. -/
structure MixinMethod where
  name : MemberName
  type : MethodType ClassName
  flags : MethodFlags
  role : Role
  /-- Marked as unique besides its role. -/
  isMarkedUnique : Bool := false
  /-- Does the handler stand in for another one that could not be applied? -/
  isSurrogate : Bool := false
  deriving DecidableEq

namespace MixinMethod

/-- Is the method a constructor or a static initialiser? -/
def isInitialiser (m : MixinMethod) : Bool := m.name.text.head? == some '<'

/-- Name and type of the method, as messages show them. -/
def signature (m : MixinMethod) : Text := m.name.text ++ m.type.render

end MixinMethod

/-- A class whose members are to be merged into other classes. -/
structure Mixin where
  name : ClassName
  /-- The configuration that ships the mixin. -/
  config : MixinConfig
  interfaces : List ClassName := []
  fields : List MixinField := []
  methods : List MixinMethod := []
  deriving DecidableEq

namespace Mixin

/-- The source id of the mixin as it may stand in member names. -/
def sourceId (m : Mixin) : Option Text := m.config.sourceId

/-- The first method with this name and type. -/
def method? (m : Mixin) (name : MemberName) (type : MethodType ClassName) :
    Option MixinMethod :=
  m.methods.find? fun method => method.name == name && method.type == type

end Mixin

end ClassGraft
