import ClassGraft.Merge.Error
import ClassGraft.Mixin.Basic
import ClassGraft.Settings
import ClassGraft.Target

/-!
# Auditing a mixin

Before anything is merged, every member of the mixin is checked against the kind
of the target and the settings, and all faults are listed: fields first, then
each method's faults, then what keeps the injectors out. Each check reports at
most one fault.

Classes take nearly everything. Interfaces hold no state, have only public and
private methods, and take injectors only where that is switched on. Private
methods need a level; below it, a handler is hidden by making it private and
synthetic, which an older level understands.
-/

namespace ClassGraft

namespace Settings

/-- Does the level have private methods in interfaces? -/
def hasPrivateInterfaceMethods (s : Settings) : Bool := s.supports [.privateInterfaceMethods]

/-- Does the level have private synthetic methods in interfaces? -/
def hasSyntheticInterfaceMethods (s : Settings) : Bool :=
  s.supports [.privateSyntheticInterfaceMethods]

/-- Are handlers hidden by making them private and synthetic? -/
def hidesHandlers (s : Settings) : Bool :=
  !s.hasPrivateInterfaceMethods && s.hasSyntheticInterfaceMethods

end Settings

namespace Merge

/-- A check that found no fault, or one. -/
abbrev Verdict := Except MergeError Unit

/-- The fault that a check found. -/
def Verdict.faults : Verdict → List MergeError
  | .ok () => []
  | .error fault => [fault]

@[simp] theorem Verdict.faults_eq_nil_iff {v : Verdict} : v.faults = [] ↔ v = .ok () := by
  cases v <;> simp [faults]

/-! ## Fields -/

/-- The rule that a field breaks in an interface. -/
def brokenFieldRule? (f : MixinField) : Option MergeRule :=
  if f.name = .imaginarySuper then some .imaginarySuperField
  else if f.role ≠ .shadow then
    some (if f.flags.isStatic then .nonShadowField else .newInstanceField)
  else if !f.flags.isPublicConstant then some .nonConstantShadowField
  else if f.isMutable then some .mutableShadowField
  else if f.isPrefixed then some .prefixedShadowField
  else none

/-- Can the field be merged into a target of this kind? -/
def checkField (kind : TargetKind) (mixin : Mixin) (f : MixinField) : Verdict :=
  match kind with
  | .cls => .ok ()
  | .interface =>
    match brokenFieldRule? f with
    | none => .ok ()
    | some rule => .error (.illegal mixin.name f.signature rule)

/-! ## Methods -/

/-- The fault of a method that needs a language feature which the level lacks. -/
def lacking (s : Settings) (mixin : Mixin) (m : MixinMethod) (f : LanguageFeature) : MergeError :=
  .unsupported mixin.name m.signature (.level f.since) s.level

/-- Is the declared visibility of the method possible in a target of this kind? -/
def checkDeclaration (s : Settings) (kind : TargetKind) (mixin : Mixin) (m : MixinMethod) :
    Verdict :=
  if kind = .cls || m.flags.isPublic then .ok ()
  else if m.flags.isSynthetic then
    if s.hasSyntheticInterfaceMethods then .ok ()
    else .error (lacking s mixin m .privateSyntheticInterfaceMethods)
  else if m.name = .staticInitialiser && m.type.isNullaryVoid then .ok ()
  else if m.flags.isPrivate then
    if s.hasPrivateInterfaceMethods then .ok ()
    else .error (lacking s mixin m .privateInterfaceMethods)
  else .error (.illegal mixin.name m.signature .nonPublicInterfaceMethod)

/-- Would the method become part of the target's API as a static that is not
private? Shadows and initialisers do not count, an overwrite is meant to replace
what is there, and where interfaces have no private methods a static handler can
only be public. -/
def checkStatic (s : Settings) (kind : TargetKind) (mixin : Mixin) (m : MixinMethod) : Verdict :=
  if m.role = .shadow || m.isInitialiser then .ok ()
  else if kind = .interface && m.flags.isStatic && m.role.isHandler
      && !s.hasPrivateInterfaceMethods then .ok ()
  else if m.flags.isStatic && !m.flags.isPrivate && !m.flags.isSynthetic
      && m.role ≠ .overwrite then
    .error (.illegal mixin.name m.signature .nonPrivateStaticMethod)
  else .ok ()

/-! ## Injectors -/

/-- The handler made private and synthetic; other methods stay as they are. -/
def hideHandler (m : MixinMethod) : MixinMethod :=
  if m.role.isHandler then
    { m with flags := { m.flags.withVisibility .privateAccess with isSynthetic := true } }
  else m

/-- The methods of the mixin as they are merged into a target of this kind. An
interface takes handlers only where the feature is enabled; the first handler is
reported otherwise. -/
def prepareMethods (s : Settings) (kind : TargetKind) (mixin : Mixin) :
    Except MergeError (List MixinMethod) :=
  match kind with
  | .cls => .ok mixin.methods
  | .interface =>
    match mixin.methods.find? fun m => m.role.isHandler with
    | none => .ok mixin.methods
    | some first =>
      if s.isEnabled .injectorsInInterfaceMixins then
        .ok (if s.hidesHandlers then mixin.methods.map hideHandler else mixin.methods)
      else
        .error (.unsupported mixin.name first.signature (.feature .injectorsInInterfaceMixins)
          s.level)

/-! ## The audit -/

/-- The faults of one field. -/
def fieldFaults (kind : TargetKind) (mixin : Mixin) (f : MixinField) : List MergeError :=
  (checkField kind mixin f).faults

/-- The faults of one method. -/
def methodFaults (s : Settings) (kind : TargetKind) (mixin : Mixin) (m : MixinMethod) :
    List MergeError :=
  (checkDeclaration s kind mixin m).faults ++ (checkStatic s kind mixin m).faults

/-- What keeps the injectors of a mixin out. -/
def injectorFaults (s : Settings) (kind : TargetKind) (mixin : Mixin) : List MergeError :=
  Verdict.faults ((prepareMethods s kind mixin).map fun _ => ())

/-- Every reason why the mixin cannot be merged into a target of this kind. -/
def audit (s : Settings) (kind : TargetKind) (mixin : Mixin) : List MergeError :=
  mixin.fields.flatMap (fieldFaults kind mixin)
    ++ mixin.methods.flatMap (methodFaults s kind mixin)
    ++ injectorFaults s kind mixin

/-- Classes take every field. -/
@[simp] theorem checkField_cls (mixin : Mixin) (f : MixinField) :
    checkField .cls mixin f = .ok () := rfl

/-- Classes take methods of every visibility. -/
@[simp] theorem checkDeclaration_cls (s : Settings) (mixin : Mixin) (m : MixinMethod) :
    checkDeclaration s .cls mixin m = .ok () := rfl

/-- Classes take the methods of a mixin as they are. -/
@[simp] theorem prepareMethods_cls (s : Settings) (mixin : Mixin) :
    prepareMethods s .cls mixin = .ok mixin.methods := rfl

/-- An audit without faults lets the preparation of the methods through. -/
theorem exists_prepareMethods_of_audit {s : Settings} {kind : TargetKind} {mixin : Mixin}
    (h : audit s kind mixin = []) : ∃ ms, prepareMethods s kind mixin = .ok ms := by
  have hinj : injectorFaults s kind mixin = [] := by
    unfold audit at h
    exact (List.append_eq_nil_iff.mp h).2
  unfold injectorFaults at hinj
  cases hprep : prepareMethods s kind mixin with
  | ok ms => exact ⟨ms, rfl⟩
  | error fault =>
    -- A failing preparation would have been the last entry of the audit.
    rw [hprep] at hinj
    exact absurd hinj (by simp [Except.map, Verdict.faults])

end Merge

end ClassGraft
