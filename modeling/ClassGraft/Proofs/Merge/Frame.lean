import ClassGraft.Proofs.Merge.Effect

/-!
# What a merge leaves alone

A merge goes through four stages, and names are made in between. What was in the target
before is touched in two ways only: a method gives way to one of its name and type, and the
final flag is taken off the field that a writable shadow stands for. Interfaces are spared
the second way, and their initialisers the first one: no method of a mixin with the name of
an initialiser has a place in an interface, and no name that is made is such a name.

The last point needs that the allocator remembers names for handlers that it made itself.
It does if it was made for its target and has only been asked for names since.
-/

namespace ClassGraft

/-! ## Allocators -/

namespace Allocator

/-- Allocators as they come about: made for a target, and then asked for names and reset. -/
inductive IsReached : Allocator → Prop
  | new (target : ClassName) : IsReached (.new target)
  | reset {a : Allocator} (h : IsReached a) : IsReached a.reset
  | uniqueMethod {a : Allocator} (h : IsReached a) (source : Option Text) (session name : Text)
      (keepsStart : Bool) : IsReached (a.uniqueMethod source session name keepsStart).2
  | uniqueField {a : Allocator} (h : IsReached a) (source : Option Text) (session name : Text) :
      IsReached (a.uniqueField source session name).2
  | conform {a : Allocator} (h : IsReached a) (registry : Registry) (mixin : Mixin)
      (handler : MixinMethod) : IsReached (a.conform registry mixin handler).allocator

/-- All of them remember generated names only. -/
theorem IsReached.isSound {a : Allocator} (h : a.IsReached) : a.IsSound := by
  induction h with
  | new target => exact isSound_new target
  | reset _ ih => exact ih.congr rfl rfl
  | uniqueMethod _ _ _ _ _ ih => exact ih.congr rfl rfl
  | uniqueField _ _ _ _ ih => exact ih.congr rfl rfl
  | conform _ registry mixin handler ih => exact (ih.conform registry mixin handler).1

end Allocator

/-! ## Initialisers of interfaces -/

namespace MemberName

/-- Is this the name of constructors or of static initialisers? -/
def IsInitialiser (name : MemberName) : Prop := name = .constructor ∨ name = .staticInitialiser

/-- Neither of them holds a dollar sign. -/
theorem IsInitialiser.dollar_not_mem {name : MemberName} (h : name.IsInitialiser) :
    '$' ∉ name.text := by
  rcases h with rfl | rfl
  · decide
  · decide

end MemberName

/-- No method with the name of an initialiser has a place in an interface. -/
theorem MixinMethod.not_isInitialiser_of_isPlaced {m : MixinMethod}
    (h : m.isPlaced .interface = true) : ¬ m.name.IsInitialiser := by
  rintro (hname | hname)
  · simp [isPlaced, hname] at h
  · simp [isPlaced, hname] at h

/-- So none gets the name of one. -/
theorem Target.Admits.not_isInitialiser {t : Target} {owner : ClassName}
    {p : MixinMethod × MemberName} (h : t.Admits owner p)
    (hplaced : p.1.isPlaced .interface = true) : ¬ p.2.IsInitialiser := by
  have hdeclared := MixinMethod.not_isInitialiser_of_isPlaced hplaced
  cases hreplaces : p.1.replaces with
  | true =>
      rw [h.1 hreplaces]
      exact hdeclared
  | false =>
      rcases h.2 hreplaces with hmade | ⟨hname, _⟩
      · exact fun hinit => hinit.dollar_not_mem hmade.dollar_mem
      · rw [hname]
        exact hdeclared

/-! ## Old fields of classes -/

/-- Is this the position of the first field with the name and type of a shadow that is marked
as writable? -/
def Mixin.Unfinalises (mixin : Mixin) (t : Target) (i : Nat) : Prop :=
  ∃ g ∈ mixin.fields, g.role = .shadow ∧ g.isMutable = true ∧ t.fieldIndex? g.name g.type = some i

instance (mixin : Mixin) (t : Target) (i : Nat) : Decidable (mixin.Unfinalises t i) :=
  inferInstanceAs (Decidable (∃ g ∈ mixin.fields, _))

namespace Merge

variable {settings : Settings} {target : Target} {mixin : Mixin} {allocator : Allocator}
  {registry : Registry} {report : Report}

/-- An old field of a class keeps its place and all it has, but for a final flag that a
writable shadow takes off. -/
theorem getElem?_fields_of_apply
    (h : (apply settings target mixin allocator registry).outcome = .ok report)
    (hkind : target.kind = .cls) {i : Nat} {f : TargetField} (hf : target.fields[i]? = some f) :
    (apply settings target mixin allocator registry).target.fields[i]?
      = some (if mixin.Unfinalises target i then f.unfinalised else f) := by
  obtain ⟨pushed, left, heffect⟩ := exists_effect_of_apply h
  have hshadows := Target.getElem?_unfinaliseFields hf (mixin.mutableShadows target.kind)
  have hiff : (∃ g ∈ mixin.mutableShadows target.kind, target.fieldIndex? g.name g.type = some i) ↔
      mixin.Unfinalises target i := by
    simp [hkind, Mixin.mutableShadows, Mixin.Unfinalises, and_assoc]
  rw [heffect.fields, List.getElem?_append_left (List.getElem?_eq_some_iff.mp hshadows).1, hshadows]
  simp only [hiff]

/-- Nothing that is merged into an interface has the name of an initialiser. -/
theorem not_isInitialiser_of_apply (hallocator : allocator.IsReached)
    (h : (apply settings target mixin allocator registry).outcome = .ok report)
    (hkind : target.kind = .interface) {name : MemberName} (hname : name ∈ report.mergedMethods) :
    ¬ name.IsInitialiser := by
  obtain ⟨_, _, hadmits⟩ := methods_of_apply h
  rw [← map_snd_placements_of_apply h] at hname
  obtain ⟨p, hp, rfl⟩ := List.mem_map.mp hname
  have hplaced := (List.mem_filter.mp (List.of_mem_zip hp).1).2
  rw [hkind] at hplaced
  exact (hadmits hallocator.isSound p hp).not_isInitialiser hplaced

/-- Whenever applying a mixin succeeds, an interface keeps its fields and its initialisers as
they are, and no constructor code of the mixin is applied to it. A class keeps every old
field at its place with its name, type and flags; only the final flag is taken off, and of
exactly those fields that are the first one with the name and type of a writable shadow. -/
theorem frame_of_apply (hallocator : allocator.IsReached)
    (h : (apply settings target mixin allocator registry).outcome = .ok report) :
    let after := (apply settings target mixin allocator registry).target
    (target.kind = .interface →
      after.fields = target.fields ∧
      (∀ name ∈ report.mergedMethods, ¬ name.IsInitialiser) ∧
      (∀ (i : Nat) (m : TargetMethod), m.name.IsInitialiser →
        (after.methods[i]? = some m ↔ target.methods[i]? = some m)) ∧
      report.initialisersApplied = false) ∧
    (target.kind = .cls → ∀ (i : Nat) (f : TargetField), target.fields[i]? = some f →
      after.fields[i]? = some (if mixin.Unfinalises target i then f.unfinalised else f)) := by
  intro after
  refine ⟨fun hkind => ?_, fun hkind i f => getElem?_fields_of_apply h hkind⟩
  obtain ⟨pushed, left, heffect⟩ := exists_effect_of_apply h
  have hmerged : ∀ name ∈ report.mergedMethods, ¬ name.IsInitialiser :=
    fun name => not_isInitialiser_of_apply hallocator h hkind
  refine ⟨?_, hmerged, ?_, heffect.initialisersApplied hkind⟩
  · -- Interfaces have neither new fields nor shadows that are heeded.
    have hnone : pushed = [] := by
      have hperm := heffect.perm
      rw [hkind] at hperm
      exact List.map_eq_nil_iff.mp (List.append_eq_nil_iff.mp hperm.eq_nil).1
    have hfields := heffect.fields
    rw [hnone, hkind] at hfields
    exact hfields.trans (List.append_nil _)
  · intro i m hm
    show (apply settings target mixin allocator registry).target.methods[i]? = some m ↔ _
    rw [(methods_of_apply h).2.1]
    refine Target.getElem?_putMethods_of_name_ne fun x hx hname => ?_
    obtain ⟨p, hp, rfl⟩ := List.mem_map.mp hx
    have hreported : p.2 ∈ report.mergedMethods := (List.of_mem_zip hp).2
    have hname : p.2 = m.name := hname
    exact hmerged p.2 hreported (hname ▸ hm)

end Merge

/-! ## A shape -/

namespace Shape

/-- An interface with a constant and code that sets it. -/
def target : Target where
  name := .literal "a/Shape"
  kind := .interface
  fields :=
    [{ name := .literal "SIDES"
       type := .primitive .int
       flags := { isPublic := true, isStatic := true, isFinal := true } }]
  methods :=
    [{ name := .staticInitialiser
       type := { parameters := [], result := none }
       flags := { isStatic := true } }]

/-- A mixin with such code of its own, and a method. -/
def mixin : Mixin where
  name := .literal "mod/mixin/ShapeMixin"
  config := { name := "mod", source := some (Text.ofString "mymod") }
  fields :=
    [{ name := .literal "SIDES"
       type := .primitive .int
       flags := { isPublic := true, isStatic := true, isFinal := true }
       role := .shadow }]
  methods :=
    [{ name := .staticInitialiser
       type := { parameters := [], result := none }
       flags := { isStatic := true }
       role := .plain },
     { name := .literal "describe"
       type := { parameters := [], result := none }
       flags := { isPublic := true }
       role := .plain }]

/-- What applying the mixin to the shape comes to. -/
def applied : Applied :=
  Merge.apply (Merge.sessionAt .java8) target mixin (.new target.name) .empty

end Shape

namespace Merge

/-- The shape keeps its constant and its static initialiser, and gets no constructor code.
The counter of the widget is no longer final, but is the same otherwise. -/
theorem frame_shape_widget :
    (∃ report, Shape.applied.outcome = .ok report ∧
      Shape.applied.target.fields = Shape.target.fields ∧
      Shape.applied.target.methods[0]? = Shape.target.methods[0]? ∧
      report.initialisersApplied = false) ∧
    ∃ report, Widget.applied.outcome = .ok report ∧
      Widget.target.fields.map (·.flags.isFinal) = [true] ∧
      Widget.applied.target.fields[0]? = Widget.target.fields[0]?.map TargetField.unfinalised := by
  have hshape : audit (sessionAt .java8) Shape.target.kind Shape.mixin = [] := by decide
  have hwidget : audit (sessionAt .java8) Widget.target.kind Widget.mixin = [] := by decide
  obtain ⟨shapeReport, hshape⟩ := exists_report_of_audit_eq_nil (isBuilt_sessionAt .java8) hshape
    (.new Shape.target.name) .empty
  obtain ⟨widgetReport, hwidget⟩ := exists_report_of_audit_eq_nil (isBuilt_sessionAt .java8) hwidget
    (.new Widget.target.name) .empty
  obtain ⟨hfields, _, hinitialisers, happlied⟩ := (frame_of_apply (.new _) hshape).1 rfl
  have hcount := (frame_of_apply (.new _) hwidget).2 rfl 0 _ rfl
  refine ⟨⟨shapeReport, hshape, hfields, ?_, happlied⟩, widgetReport, hwidget, rfl, ?_⟩
  · exact (hinitialisers 0 _ (Or.inr rfl)).mpr rfl
  · exact hcount.trans rfl

end Merge

end ClassGraft
