import ClassGraft.Proofs.Merge.Steps
import ClassGraft.Proofs.Naming.Validity

/-!
# What applying a mixin comes to

The audit decides. What it lets through is merged: a stage could fail only on a
generated name that is no member name, and with settings as they are made there is
no such name. What it rejects leaves everything as it was.
-/

namespace ClassGraft

variable {settings : Settings}

/-- A handler of a mixin always gets a name. -/
theorem Allocator.exists_conform_outcome (a : Allocator) (r : Registry) (mixin : Mixin)
    (handler : MixinMethod) : ∃ name, (a.conform r mixin handler).outcome = .ok name := by
  unfold conform
  split
  · exact ⟨none, rfl⟩
  · next injector _ =>
    dsimp only
    split
    · next name _ => exact ⟨some name, rfl⟩
    · split
      · next fault hfault =>
        obtain ⟨name, hname⟩ := MemberName.exists_ofText_eq_ok_iff.mpr
          (isMemberName_handlerName mixin.config handler.name r injector a.target
            handler.type.render handler.isSurrogate)
        rw [handlerName, Mixin.sourceId, hname] at hfault
        cases hfault
      · next name _ => exact ⟨some name, rfl⟩

namespace Merge

/-! ## No stage fails -/

theorem exists_mergeField (hs : settings.IsBuilt) (mixin : Mixin) (s : MergeState)
    (f : MixinField) : ∃ t, mergeField settings mixin s f = .ok t := by
  obtain ⟨name, hname⟩ := MemberName.exists_ofText_eq_ok_iff.mpr
    (isMemberName_uniqueFieldText mixin.config f.name hs.isClean_session s.allocator.nextField)
  have hnamed : MemberName.ofText
      (s.allocator.uniqueField mixin.sourceId settings.session f.name.text).1 = .ok name := hname
  unfold mergeField
  split
  · split
    · simp only [hnamed]
      exact ⟨_, rfl⟩
    · exact ⟨_, rfl⟩
  · exact ⟨_, rfl⟩

theorem exists_mergeUnique (hs : settings.IsBuilt) (mixin : Mixin) (s : MergeState)
    (m : MixinMethod) (keepsStart : Bool) :
    ∃ t, mergeUnique settings mixin s m keepsStart = .ok t := by
  obtain ⟨name, hname⟩ := MemberName.exists_ofText_eq_ok_iff.mpr
    (isMemberName_uniqueMethodText mixin.config m.name hs.isClean_session keepsStart
      s.allocator.nextMethod)
  have hnamed : MemberName.ofText
      (s.allocator.uniqueMethod mixin.sourceId settings.session m.name.text keepsStart).1
        = .ok name := hname
  unfold mergeUnique
  simp only [hnamed]
  exact ⟨_, rfl⟩

theorem exists_mergeHandler (mixin : Mixin) (s : MergeState) (m : MixinMethod) :
    ∃ t, mergeHandler mixin s m = .ok t := by
  obtain ⟨name, hname⟩ := s.allocator.exists_conform_outcome s.registry mixin m
  unfold mergeHandler
  cases name with
  | none => exact ⟨_, by simp only [hname]; rfl⟩
  | some name => exact ⟨_, by simp only [hname]; rfl⟩

theorem exists_mergeMethod (hs : settings.IsBuilt) (mixin : Mixin) (s : MergeState)
    (m : MixinMethod) : ∃ t, mergeMethod settings mixin s m = .ok t := by
  rcases mergeMethod_cases settings mixin s m with
    ⟨t, ht, _⟩ | ⟨_, _, _, _, keepsStart, heq⟩ | ⟨_, _, heq⟩
  · exact ⟨t, ht⟩
  · rw [heq]
    exact exists_mergeUnique hs mixin s m keepsStart
  · rw [heq]
    exact exists_mergeHandler mixin s m

theorem exists_mergeAll (hs : settings.IsBuilt) (mixin : Mixin) (methods : List MixinMethod)
    (s : MergeState) : ∃ t, mergeAll settings mixin methods s = .ok t := by
  have hfields : ∀ s, ∃ t, mergeFields settings mixin s = .ok t := fun s =>
    Runs.exists_foldlM_eq_ok (fun s f => exists_mergeField hs mixin s f) _ s
  have hmethods : ∀ s, ∃ t, mergeMethods settings mixin methods s = .ok t := fun s =>
    Runs.exists_foldlM_eq_ok (fun s m => exists_mergeMethod hs mixin s m) _ s
  unfold mergeAll
  dsimp only
  split
  · obtain ⟨t, ht⟩ := hfields (mergeShadows mixin (addInterfaces mixin s))
    rw [ht]
    exact hmethods t
  · exact hmethods _

/-! ## The audit decides -/

/-- What the audit lets through is merged. -/
theorem exists_report_of_audit_eq_nil (hs : settings.IsBuilt) {target : Target} {mixin : Mixin}
    (h : audit settings target.kind mixin = []) (allocator : Allocator) (registry : Registry) :
    ∃ report, (apply settings target mixin allocator registry).outcome = .ok report := by
  obtain ⟨methods, hprep⟩ := exists_prepareMethods_of_audit h
  obtain ⟨s, hmerge⟩ := exists_mergeAll hs mixin methods { target, allocator, registry }
  unfold apply
  simp only [h, hprep, hmerge]
  exact ⟨_, rfl⟩

/-- Applying a mixin succeeds exactly if the audit is empty. Otherwise it fails with
the list that the audit found, and target, allocator and registry stay as they were.
Every name that an allocator can build for the members of the mixin is a member
name, so nothing else can go wrong. -/
theorem apply_outcome_of_isBuilt (hs : settings.IsBuilt) (target : Target) (mixin : Mixin)
    (allocator : Allocator) (registry : Registry) :
    ((∃ report, (apply settings target mixin allocator registry).outcome = .ok report) ↔
        audit settings target.kind mixin = []) ∧
      (audit settings target.kind mixin ≠ [] →
        (apply settings target mixin allocator registry).outcome
            = .error (.rejected (audit settings target.kind mixin)) ∧
          (apply settings target mixin allocator registry).target = target ∧
          (apply settings target mixin allocator registry).allocator = allocator ∧
          (apply settings target mixin allocator registry).registry = registry) ∧
      ∀ (name : MemberName) (number : UInt32) (shared : Registry),
        (∀ keepsStart, IsMemberName (Allocator.uniqueMethodText mixin.sourceId settings.session
          name.text keepsStart number)) ∧
        IsMemberName (Allocator.uniqueFieldText mixin.sourceId settings.session name.text number) ∧
        ∀ (injector : Injector) (type : MethodType ClassName) (isSurrogate : Bool),
          IsMemberName (allocator.handlerName shared mixin.sourceId
            (Text.ofString injector.handlerWord) name.text type.render isSurrogate).1 := by
  refine ⟨⟨?_, ?_⟩, ?_, ?_⟩
  · rintro ⟨report, hreport⟩
    by_contra haudit
    rw [apply_of_audit_ne_nil haudit] at hreport
    cases hreport
  · intro haudit
    exact exists_report_of_audit_eq_nil hs haudit allocator registry
  · intro haudit
    rw [apply_of_audit_ne_nil haudit]
    exact ⟨rfl, rfl, rfl, rfl⟩
  · intro name number shared
    refine ⟨?_, ?_, ?_⟩
    · intro keepsStart
      exact isMemberName_uniqueMethodText mixin.config name hs.isClean_session keepsStart number
    · exact isMemberName_uniqueFieldText mixin.config name hs.isClean_session number
    · intro injector type isSurrogate
      exact isMemberName_handlerName mixin.config name shared injector allocator.target type.render
        isSurrogate

/-- A mixin with one handler. -/
def handlerMixin : Mixin where
  name := .literal "mod/mixin/TMixin"
  config := { name := "mod", source := some (Text.ofString "mod") }
  methods :=
    [{ name := .literal "onTick"
       type := { parameters := [], result := none }
       flags := { isPrivate := true }
       role := .handler .inject }]

/-- An interface that mixins are merged into. -/
def interfaceTarget : Target := { name := .literal "a/Api", kind := .interface }

/-- The session of settings at a given level. -/
def sessionAt (level : Level) : Settings :=
  { session := Text.ofString "0123456789abcdef0123456789abcdefwxyz", level := level }

theorem isBuilt_sessionAt (level : Level) : (sessionAt level).IsBuilt := by
  have hsession : Settings.withSession (sessionAt level).session = .ok (sessionAt .java8) := by
    rfl
  exact .atLevel level (.withSession hsession)

/-- The handler goes into the interface where injectors are enabled, and is
rejected where they are not. -/
theorem apply_handlerMixin_outcomes :
    (audit ((sessionAt .java9).enable .injectorsInInterfaceMixins) .interface handlerMixin = [] ∧
      ∃ report, (apply ((sessionAt .java9).enable .injectorsInInterfaceMixins) interfaceTarget
        handlerMixin (.new interfaceTarget.name) .empty).outcome = .ok report) ∧
    (audit (sessionAt .java9) .interface handlerMixin ≠ [] ∧
      (apply (sessionAt .java9) interfaceTarget handlerMixin (.new interfaceTarget.name)
        .empty).outcome = .error (.rejected (audit (sessionAt .java9) .interface handlerMixin))) := by
  have hempty : audit ((sessionAt .java9).enable .injectorsInInterfaceMixins) .interface
      handlerMixin = [] := by decide
  have hfaulty : audit (sessionAt .java9) .interface handlerMixin ≠ [] := by decide
  have henabled := apply_outcome_of_isBuilt (.enable .injectorsInInterfaceMixins
    (isBuilt_sessionAt .java9)) interfaceTarget handlerMixin (.new interfaceTarget.name) .empty
  have hdisabled := apply_outcome_of_isBuilt (isBuilt_sessionAt .java9) interfaceTarget
    handlerMixin (.new interfaceTarget.name) .empty
  exact ⟨⟨hempty, henabled.1.mpr hempty⟩, hfaulty, (hdisabled.2.1 hfaulty).1⟩

end Merge

end ClassGraft
