import Mathlib.Data.List.Nodup
import ClassGraft.Proofs.Merge.Effect

/-!
# Targets without repetitions

A class lists each interface once and not itself, and it has one method of each name and
type. Merging keeps it like that, with any settings and any mixin, however often a mixin
repeats a member or an interface, and also where the merge gets stuck halfway.

There are four writes that a merge does to a target. What each of them preserves, every
merge preserves: `Target.IsKept` says so for any property, and `Target.IsTidy` is the one of
interest here. No name has to be looked at for it: a method whose name and type are taken
replaces what has them, be the name declared or generated, and every other method is new.
-/

namespace ClassGraft

/-! ## What every write preserves -/

/-- A property of targets that each write of a merge preserves. An interface is pushed only
where it is new, and not the target itself. -/
structure Target.IsKept (P : Target → Prop) : Prop where
  pushInterface : ∀ {t : Target} {i : ClassName}, i ≠ t.name → i ∉ t.interfaces → P t →
    P (t.pushInterface i)
  unfinaliseField : ∀ {t : Target} (name : MemberName) (type : FieldType ClassName), P t →
    P (t.unfinaliseField name type)
  pushField : ∀ {t : Target} (f : TargetField), P t → P (t.pushField f)
  putMethod : ∀ {t : Target} (m : TargetMethod), P t → P (t.putMethod m)

namespace Target.IsKept

variable {P : Target → Prop} {settings : Settings} {mixin : Mixin} {s : MergeState}

theorem addInterface (hP : IsKept P) (hs : P s.target) (i : ClassName) :
    P (Merge.addInterface s i).target := by
  unfold Merge.addInterface
  split
  · exact hs
  · next hnew =>
    obtain ⟨hname, hmem⟩ := not_or.mp hnew
    exact hP.pushInterface hname hmem hs

theorem mergeShadow (hP : IsKept P) (hs : P s.target) (f : MixinField) :
    P (Merge.mergeShadow mixin s f).target := by
  unfold Merge.mergeShadow
  split
  · exact hs
  · split
    · exact hP.unfinaliseField f.name f.type hs
    · exact hs

/-- A field is pushed, or the target stays as it is, also where no name can be made. -/
theorem mergeField (hP : IsKept P) (hs : P s.target) (f : MixinField) :
    P (Runs.final (Merge.mergeField settings mixin s f)).target := by
  unfold Merge.mergeField
  split
  · split
    · dsimp only
      split
      · exact hs
      · exact hP.pushField _ hs
    · exact hs
  · exact hP.pushField _ hs

/-- A method is put, or the target stays as it is. -/
theorem mergeMethod (hP : IsKept P) (hs : P s.target) (m : MixinMethod) :
    P (Runs.final (Merge.mergeMethod settings mixin s m)).target := by
  cases hmerge : Merge.mergeMethod settings mixin s m with
  | error refusal =>
      show P refusal.2.target
      rw [(Merge.untouched_of_mergeMethod_error hmerge).target]
      exact hs
  | ok t =>
      cases Merge.methodStep_of_mergeMethod hmerge with
      | shadow => exact hs
      | initialiser => exact hs
      | skipped => exact hs
      | declared => exact hP.putMethod _ hs
      | unique => exact hP.putMethod _ hs
      | handler => exact hP.putMethod _ hs

/-- So all stages of a merge preserve it, wherever they end. -/
theorem mergeAll (hP : IsKept P) (hs : P s.target) (methods : List MixinMethod) :
    P (Runs.final (Merge.mergeAll settings mixin methods s)).target := by
  have hinterfaces : P (Merge.addInterfaces mixin s).target :=
    List.foldlRecOn (motive := fun s => P s.target) mixin.interfaces Merge.addInterface hs
      fun t ht i _ => hP.addInterface ht i
  have hshadows : P (Merge.mergeShadows mixin (Merge.addInterfaces mixin s)).target :=
    List.foldlRecOn (motive := fun s => P s.target) _ (Merge.mergeShadow mixin) hinterfaces
      fun t ht f _ => hP.mergeShadow ht f
  have hfields : P (Runs.final (Merge.mergeAll settings mixin [] s)).target := by
    cases hkind : s.target.kind with
    | cls =>
        rw [Merge.mergeAll_nil_of_cls hkind]
        exact Runs.foldlM_final_induction (P := fun s : MergeState => P s.target)
          (fun t f ht => hP.mergeField ht f) hshadows
    | interface =>
        rw [Merge.mergeAll_nil_of_interface hkind]
        exact hshadows
  rw [Merge.mergeAll_eq_bind]
  refine Runs.final_bind (P := fun s : MergeState => P s.target) hfields fun t ht => ?_
  exact Runs.foldlM_final_induction (P := fun s : MergeState => P s.target)
    (fun u m hu => hP.mergeMethod hu m) ht

/-- And applying a mixin does, whatever comes of it. -/
theorem apply (hP : IsKept P) {target : Target} (htarget : P target) (settings : Settings)
    (mixin : Mixin) (allocator : Allocator) (registry : Registry) :
    P (Merge.apply settings target mixin allocator registry).target := by
  rcases Merge.apply_cases settings target mixin allocator registry with
    ⟨errors, hrefused⟩ | ⟨methods, run, _, rfl, hafter, _⟩
  · rw [hrefused]
    exact htarget
  · rw [hafter]
    exact hP.mergeAll htarget methods

end Target.IsKept

/-! ## Tidy targets -/

namespace Target

/-- Methods are pairwise distinct by name and type; interfaces are too, and the target is not
one of them. -/
structure IsTidy (t : Target) : Prop where
  methods : t.methodKeys.Nodup
  interfaces : t.interfaces.Nodup
  name_not_mem : t.name ∉ t.interfaces

instance (t : Target) : Decidable t.IsTidy :=
  decidable_of_iff (t.methodKeys.Nodup ∧ t.interfaces.Nodup ∧ t.name ∉ t.interfaces)
    ⟨fun h => ⟨h.1, h.2.1, h.2.2⟩, fun h => ⟨h.methods, h.interfaces, h.name_not_mem⟩⟩

variable {t : Target}

theorem IsTidy.pushInterface (h : t.IsTidy) {i : ClassName} (hname : i ≠ t.name)
    (hnew : i ∉ t.interfaces) : (t.pushInterface i).IsTidy where
  methods := h.methods
  interfaces := by
    show (t.interfaces ++ [i]).Nodup
    rw [← List.concat_eq_append]
    exact h.interfaces.concat hnew
  name_not_mem := by
    show t.name ∉ t.interfaces ++ [i]
    simpa [h.name_not_mem] using hname.symm

/-- A method that is put gets no second place if its key is there, and a place of its own if
it is not. -/
theorem nodup_methodKeys_putMethod (h : t.methodKeys.Nodup) (m : TargetMethod) :
    (t.putMethod m).methodKeys.Nodup := by
  by_cases hthere : (m.name, m.type) ∈ t.methodKeys
  · rw [methodKeys_putMethod_of_mem hthere]
    exact h
  · rw [methodKeys_putMethod_of_not_mem hthere, ← List.concat_eq_append]
    exact h.concat hthere

theorem IsTidy.putMethod (h : t.IsTidy) (m : TargetMethod) : (t.putMethod m).IsTidy := by
  obtain ⟨methods, hput⟩ := exists_putMethod_eq t m
  have hkeys := nodup_methodKeys_putMethod h.methods m
  rw [hput] at hkeys ⊢
  exact ⟨hkeys, h.interfaces, h.name_not_mem⟩

/-- Tidy targets stay tidy under every write. -/
theorem isKept_isTidy : IsKept IsTidy where
  pushInterface := fun hname hnew h => h.pushInterface hname hnew
  unfinaliseField := fun _ _ h => ⟨h.methods, h.interfaces, h.name_not_mem⟩
  pushField := fun _ h => ⟨h.methods, h.interfaces, h.name_not_mem⟩
  putMethod := fun m h => h.putMethod m

end Target

/-! ## Runs -/

namespace Site

/-- What can come next at a site. -/
inductive Turn where
  | event (e : Event)
  /-- Another allocator and another registry take over. -/
  | handOver (allocator : Allocator) (registry : Registry)

/-- The site after a turn. -/
def turn (site : Site) : Turn → Site
  | .event e => site.step e
  | .handOver allocator registry => { site with allocator, registry }

/-- A turn keeps what every write to the target preserves. -/
theorem turn_target {P : Target → Prop} (hP : Target.IsKept P) {site : Site} (hsite : P site.target)
    (turn : Turn) : P (site.turn turn).target := by
  cases turn with
  | event e =>
      cases e with
      | apply settings mixin =>
          exact hP.apply hsite settings mixin site.allocator site.registry
      | reset => exact hsite
      | serve request => exact hsite
  | handOver allocator registry => exact hsite

/-- So it holds all along a run. -/
theorem forall_mem_scanl_turn {P : Target → Prop} (hP : Target.IsKept P) {site : Site}
    (hsite : P site.target) (turns : List Turn) :
    ∀ later ∈ turns.scanl turn site, P later.target := by
  induction turns generalizing site with
  | nil => simpa using hsite
  | cons turn turns ih =>
      intro later hlater
      rw [List.scanl_cons, List.mem_cons] at hlater
      rcases hlater with rfl | hlater
      · exact hsite
      · exact ih (turn_target hP hsite turn) later hlater

/-- A tidy target stays tidy, at every moment of a run in which mixins are applied to it with
any settings and any allocators, with success or not, and counters are reset. -/
theorem isTidy_of_mem_scanl {site : Site} (hsite : site.target.IsTidy) (turns : List Turn) :
    ∀ later ∈ turns.scanl turn site, later.target.IsTidy :=
  forall_mem_scanl_turn Target.isKept_isTidy hsite turns

/-- A widget is made clickable three times: with a session for which no names can be made, so
that the merge gets stuck behind the interfaces; after a reset, with a proper one; and by
another allocator. -/
theorem isTidy_of_mem_scanl_widget :
    let unchecked : Settings := { session := Text.ofString "a/b" }
    let turns : List Turn :=
      [.event (.apply unchecked Widget.mixin), .event .reset,
        .event (.apply (Merge.sessionAt .java8) Widget.mixin),
        .handOver (.new Widget.target.name) .empty,
        .event (.apply (Merge.sessionAt .java8) Widget.mixin)]
    Widget.target.IsTidy ∧
      ∀ later ∈ turns.scanl turn (fresh Widget.target .empty), later.target.IsTidy := by
  intro unchecked turns
  have htidy : Widget.target.IsTidy := by decide
  exact ⟨htidy, isTidy_of_mem_scanl htidy turns⟩

end Site

end ClassGraft
