import ClassGraft.Compatibility.Feature
import ClassGraft.Name.Class

/-!
# Why a mixin is rejected

Two kinds of reasons: a member can never be merged into this kind of target, or
it could be, but not at the active level or without a feature. A merge error
names the mixin and shows the member by its signature.
-/

namespace ClassGraft

/-- Rules that a member can break for good. All of them are about interfaces but
the last, which keeps statics out of the target's API. -/
inductive MergeRule where
  /-- Interfaces cannot hold instance state. -/
  | newInstanceField
  /-- Interfaces receive shadows only, never new fields. -/
  | nonShadowField
  /-- Fields of interfaces are public constants. -/
  | nonConstantShadowField
  /-- Constants cannot be made writable. -/
  | mutableShadowField
  /-- A shadow prefix has no meaning on fields of interfaces. -/
  | prefixedShadowField
  /-- The accessor of the superclass has no meaning in interfaces. -/
  | imaginarySuperField
  /-- Methods of interfaces are public or private. -/
  | nonPublicInterfaceMethod
  /-- A static that is not private would become part of the target's API. -/
  | nonPrivateStaticMethod
  deriving DecidableEq, Repr

/-- What a mixin that breaks the rule does, to be followed by the member. -/
def MergeRule.phrase : MergeRule → String
  | newInstanceField => "contains an instance field"
  | nonShadowField => "contains a non-shadow field"
  | nonConstantShadowField => "contains an illegal field"
  | mutableShadowField => "contains an illegal @Mutable field"
  | prefixedShadowField => "contains an illegal prefixed @Shadow field"
  | imaginarySuperField => "contains the imaginary super field"
  | nonPublicInterfaceMethod => "contains a non-public, non-private method"
  | nonPrivateStaticMethod => "contains a non-private static method"

/-- What a member needs that the settings do not give. -/
inductive Requirement where
  | level (level : Level)
  | feature (feature : Feature)
  deriving DecidableEq, Repr

/-- The wording of a need. -/
def Requirement.phrase : Requirement → String
  | level l => s!"{l} or above"
  | feature f =>
    let available := f.requiredLevel
    s!"the {f} feature (available from {available})"

/-- One reason why a mixin is rejected. -/
inductive MergeError where
  /-- The member can never be merged into this kind of target. -/
  | illegal (mixin : ClassName) (member : Text) (rule : MergeRule)
  /-- The member cannot be merged with these settings. -/
  | unsupported (mixin : ClassName) (member : Text) (requirement : Requirement) (active : Level)
  deriving DecidableEq

namespace MergeError

/-- The mixin that is rejected. -/
def mixin : MergeError → ClassName
  | illegal mixin .. => mixin
  | unsupported mixin .. => mixin

/-- The signature of the member that is the reason. -/
def member : MergeError → Text
  | illegal _ member .. => member
  | unsupported _ member .. => member

/-- The wording of the reason. -/
def message : MergeError → String
  | illegal mixin member rule =>
    let shown := Text.toStr member
    let phrase := rule.phrase
    s!"Mixin {mixin} {phrase} {shown}"
  | unsupported mixin member requirement active =>
    let shown := Text.toStr member
    let need := requirement.phrase
    s!"{shown} in {mixin} requires {need} but the active compatibility level is {active}"

end MergeError

/-- Why a mixin could not be applied. -/
inductive ApplyError where
  /-- The audit found these reasons; there is at least one. -/
  | rejected (errors : List MergeError)
  /-- A generated name is no member name. -/
  | badName (fault : NameError)
  deriving DecidableEq

/-- The wording of a failure: every reason of a rejection on a line of its own. -/
def ApplyError.message : ApplyError → String
  | rejected errors =>
    let count := errors.length
    errors.foldl (fun text error => text ++ "\n  " ++ error.message) s!"{count} merge error(s)"
  | badName fault => fault.message

end ClassGraft
