import ClassGraft.Hierarchy.Search
import ClassGraft.Mixin.Basic
import ClassGraft.Notice

/-!
# Mixins that extend mixins

A tracker records each mixin under all of its mixin ancestors, so that a method
of an ancestor can be checked for overrides further down. The ancestors of a
mixin are its superclasses up to the first one that is no mixin.
-/

namespace ClassGraft

/-- A method of a descendant that overrides one declared further up. -/
structure Override where
  /-- The mixin that declares the method. -/
  mixin : ClassName
  method : MixinMethod
  deriving DecidableEq

/-- Which mixins extend which. -/
structure Tracker where
  /-- Ancestors with the mixins below them, in the order of registration. -/
  registrations : List (ClassName × Mixin) := []
  deriving DecidableEq

namespace ClassGraph

/-- The mixins above a class: its superclasses up to the first that is no mixin. -/
def mixinAncestors (g : ClassGraph) (name : ClassName) : List ClassName :=
  (g.superclasses name).takeWhile g.isMixin

end ClassGraph

namespace MixinMethod

/-- Can the method, declared in a class named `declaredIn`, override one of the
owner? Static and private methods cannot, and a method that is visible in its
package only can within that package. -/
def canOverride (m : MixinMethod) (owner declaredIn : ClassName) : Bool :=
  !m.flags.isStatic && !m.flags.isPrivate
    && (m.flags.visibility != .packageAccess || owner.packagePart == declaredIn.packagePart)

end MixinMethod

namespace Tracker

/-- The tracker that knows no mixin. -/
def empty : Tracker := {}

/-- Record a mixin under its mixin ancestors. -/
def register (t : Tracker) (mixin : Mixin) (g : ClassGraph) : Tracker :=
  ⟨t.registrations ++ (g.mixinAncestors mixin.name).map (·, mixin)⟩

/-- What recording a mixin leaves in the log. -/
def registerNotices (mixin : Mixin) (g : ClassGraph) : List Notice :=
  (g.mixinAncestors mixin.name).map (.mixinRegistered mixin.name)

/-- The mixins recorded under a class, in the order of registration. -/
def descendants (t : Tracker) (owner : ClassName) : List Mixin :=
  (t.registrations.filter fun r => r.1 == owner).map (·.2)

/-- The override that a mixin declares of a method of the owner. -/
def overrideIn? (owner : ClassName) (name : MemberName) (type : MethodType ClassName)
    (mixin : Mixin) : Option Override :=
  ((mixin.method? name type).filter fun m => m.canOverride owner mixin.name).map
    fun m => ⟨mixin.name, m⟩

/-- All overrides of a method of the owner, in the order of registration. -/
def overrides (t : Tracker) (owner : ClassName) (name : MemberName)
    (type : MethodType ClassName) : List Override :=
  (t.descendants owner).filterMap (overrideIn? owner name type)

/-- A registration adds to the descendants of each ancestor, once. -/
theorem descendants_register (t : Tracker) (mixin : Mixin) (g : ClassGraph)
    (owner : ClassName) :
    (t.register mixin g).descendants owner
      = t.descendants owner
        ++ ((g.mixinAncestors mixin.name).filter (· == owner)).map fun _ => mixin := by
  simp [register, descendants, List.filter_map, Function.comp_def]

end Tracker

end ClassGraft
