import ClassGraft.Merge.Apply
import ClassGraft.Proofs.Runs

/-!
# What the steps of a merge can do

`MethodStep` says for one method of a mixin everything that merging it can come
to, so that no later proof opens the case analysis of `mergeMethod` again. The
stages before the methods are easier: they touch neither the methods of the target
nor the names that handlers have.
-/

namespace ClassGraft

namespace MixinMethod

/-- Does the method have a place in targets of this kind? Shadows have none, the
constructors of a mixin are merged in another way, and interfaces take no static
initialisers. -/
def isPlaced (kind : TargetKind) (m : MixinMethod) : Bool :=
  m.role != .shadow && m.name != .constructor
    && !(m.name == .staticInitialiser && kind == .interface)

/-- Does the method take the place of what it clashes with? All other methods that
have a place are renamed by the allocator instead. -/
def replaces (m : MixinMethod) : Bool :=
  m.role == .overwrite || (m.role == .plain && !m.flags.isSynthetic)

/-- No handler takes the place of what it clashes with. -/
theorem replaces_of_isHandler {m : MixinMethod} (h : m.role.isHandler = true) :
    m.replaces = false := by
  cases hrole : m.role <;> simp_all [replaces, Role.isHandler, Role.injector?]

end MixinMethod

/-- Only methods that are no handlers are left without a name. -/
theorem Allocator.conform_outcome_ne_none {a : Allocator} {r : Registry} {mixin : Mixin}
    {handler : MixinMethod} (h : handler.role.isHandler = true) :
    (a.conform r mixin handler).outcome ≠ .ok none := by
  unfold conform
  split
  · next hnone => simp [Role.isHandler, hnone] at h
  · dsimp only
    split
    · simp
    · split <;> simp

/-- A handler is named in the target of the allocator. -/
@[simp] theorem Allocator.target_conform (a : Allocator) (r : Registry) (mixin : Mixin)
    (handler : MixinMethod) : (a.conform r mixin handler).allocator.target = a.target := by
  unfold conform
  split
  · rfl
  · dsimp only
    split
    · rfl
    · split <;> rfl

namespace Merge

variable {settings : Settings} {mixin : Mixin} {s t : MergeState} {m : MixinMethod}

/-! ## One method -/

/-- What merging one method comes to, unless it fails. -/
inductive MethodStep (settings : Settings) (mixin : Mixin) (s : MergeState) (m : MixinMethod) :
    MergeState → Prop
  /-- A shadow stands for a method that is there. -/
  | shadow (hrole : m.role = .shadow) : MethodStep settings mixin s m s
  /-- The code of a constructor goes into the constructors of the class. -/
  | initialiser (hrole : m.role ≠ .shadow) (hname : m.name = .constructor)
      (hkind : s.target.kind = .cls) :
      MethodStep settings mixin s m
        { s with report := { s.report with initialisersApplied := true } }
  /-- An interface takes no initialisers. -/
  | skipped (hrole : m.role ≠ .shadow)
      (hname : m.name = .constructor ∨ m.name = .staticInitialiser)
      (hkind : s.target.kind = .interface) :
      MethodStep settings mixin s m (s.skip m.signature)
  /-- The method keeps its name. -/
  | declared (hplaced : m.isPlaced s.target.kind = true)
      (hrole : m.role.isHandler = false)
      (hfree : m.replaces = true ∨ s.target.hasMethod m.name m.type = false)
      (notices : List Notice) :
      MethodStep settings mixin s m (putMethod mixin { s with notices := notices } m m.name)
  /-- The method clashes and gets the name of a unique method. -/
  | unique (hplaced : m.isPlaced s.target.kind = true)
      (hrole : m.role.isHandler = false) (hreplaces : m.replaces = false)
      (hclash : s.target.hasMethod m.name m.type = true) (name : MemberName) (keepsStart : Bool)
      (hname : name.text = Allocator.uniqueMethodText mixin.sourceId settings.session m.name.text
        keepsStart s.allocator.nextMethod)
      (notices : List Notice) :
      MethodStep settings mixin s m
        (putRenamed mixin { s with
          notices := notices
          allocator := { s.allocator with nextMethod := s.allocator.nextMethod + 1 } } m name)
  /-- The method is a handler and gets the name of one. -/
  | handler (hplaced : m.isPlaced s.target.kind = true)
      (hrole : m.role.isHandler = true) (name : MemberName)
      (hname : (s.allocator.conform s.registry mixin m).outcome = .ok (some name))
      (notices : List Notice) :
      MethodStep settings mixin s m
        (putRenamed mixin { s with
          notices := notices
          allocator := (s.allocator.conform s.registry mixin m).allocator
          registry := (s.allocator.conform s.registry mixin m).registry } m name)

/-- A method that has a place keeps its name, or comes to what making a name for
a clashing method comes to, or for a handler. -/
theorem mergeBody_cases (settings : Settings) (hplaced : m.isPlaced s.target.kind = true) :
    (∃ t, mergeBody settings mixin s m = .ok t ∧ MethodStep settings mixin s m t) ∨
      (m.role.isHandler = false ∧ m.replaces = false ∧
        s.target.hasMethod m.name m.type = true ∧
        ∃ keepsStart, mergeBody settings mixin s m = mergeUnique settings mixin s m keepsStart) ∨
      (m.role.isHandler = true ∧ mergeBody settings mixin s m = mergeHandler mixin s m) := by
  have hshadow : m.role ≠ .shadow := by
    intro hrole
    simp [MixinMethod.isPlaced, hrole] at hplaced
  unfold mergeBody
  dsimp only
  split
  · next injector hhandler => exact Or.inr (Or.inr ⟨by rw [hhandler]; rfl, rfl⟩)
  · next hunique =>
    have hhandler : m.role.isHandler = false := by rw [hunique]; rfl
    have hreplaces : m.replaces = false := by rw [MixinMethod.replaces, hunique]; rfl
    split
    · next hclash => exact Or.inr (Or.inl ⟨hhandler, hreplaces, hclash, false, rfl⟩)
    · next hclash =>
      exact Or.inl ⟨_, rfl, .declared hplaced hhandler (Or.inr (by simpa using hclash)) s.notices⟩
  · next hnot_handler hnot_unique =>
    have hhandler : m.role.isHandler = false := by
      cases hrole : m.role <;> simp_all [Role.isHandler, Role.injector?]
    split
    · next hclash =>
      split
      · next hsynthetic =>
        have hreplaces : m.replaces = false := by simp_all [MixinMethod.replaces]
        exact Or.inr (Or.inl ⟨hhandler, hreplaces, hclash, true, rfl⟩)
      · next hother =>
        have hreplaces : m.replaces = true := by
          cases hrole : m.role <;> simp_all [MixinMethod.replaces]
        exact Or.inl ⟨_, rfl, .declared hplaced hhandler (Or.inl hreplaces) _⟩
    · next hclash =>
      exact Or.inl ⟨_, rfl, .declared hplaced hhandler (Or.inr (by simpa using hclash)) s.notices⟩

/-- So does any method, if those without a place count among the ones that keep their
names. -/
theorem mergeMethod_cases (settings : Settings) (mixin : Mixin) (s : MergeState)
    (m : MixinMethod) :
    (∃ t, mergeMethod settings mixin s m = .ok t ∧ MethodStep settings mixin s m t) ∨
      (m.isPlaced s.target.kind = true ∧ m.role.isHandler = false ∧ m.replaces = false ∧
        s.target.hasMethod m.name m.type = true ∧
        ∃ keepsStart, mergeMethod settings mixin s m = mergeUnique settings mixin s m keepsStart) ∨
      (m.isPlaced s.target.kind = true ∧ m.role.isHandler = true ∧
        mergeMethod settings mixin s m = mergeHandler mixin s m) := by
  unfold mergeMethod
  split
  · next hrole => exact Or.inl ⟨_, rfl, .shadow hrole⟩
  next hrole =>
  split
  · next hname =>
    split
    · next hkind =>
      exact Or.inl ⟨_, rfl, .skipped hrole (Or.inl hname) (by simpa [Target.isInterface] using hkind)⟩
    · next hkind =>
      have hcls : s.target.kind = .cls := by
        cases hcls : s.target.kind <;> simp_all [Target.isInterface]
      exact Or.inl ⟨_, rfl, .initialiser hrole hname hcls⟩
  next hname =>
  split
  · next hstatic =>
    obtain ⟨hstatic, hkind⟩ : m.name = .staticInitialiser ∧ s.target.kind = .interface := by
      simpa [Target.isInterface] using hstatic
    exact Or.inl ⟨_, rfl, .skipped hrole (Or.inr hstatic) hkind⟩
  next hstatic =>
  have hplaced : m.isPlaced s.target.kind = true := by
    have hnot : ¬ (m.name = .staticInitialiser ∧ s.target.kind = .interface) := by
      simpa [Target.isInterface] using hstatic
    simp only [MixinMethod.isPlaced, Bool.and_eq_true, bne_iff_ne, Bool.not_eq_true',
      Bool.and_eq_false_iff, beq_eq_false_iff_ne]
    exact ⟨⟨hrole, hname⟩, Classical.not_and_iff_not_or_not.mp hnot⟩
  rcases mergeBody_cases settings hplaced with hkept | hunique | hhandler
  · exact Or.inl hkept
  · exact Or.inr (Or.inl ⟨hplaced, hunique⟩)
  · exact Or.inr (Or.inr ⟨hplaced, hhandler⟩)

/-- A method that is merged is merged in one of these ways. -/
theorem methodStep_of_mergeMethod (h : mergeMethod settings mixin s m = .ok t) :
    MethodStep settings mixin s m t := by
  rcases mergeMethod_cases settings mixin s m with
    ⟨u, hu, hstep⟩ | ⟨hplaced, hrole, hreplaces, hclash, keepsStart, heq⟩ | ⟨hplaced, hrole, heq⟩
  · obtain rfl : u = t := Except.ok.inj (hu.symm.trans h)
    exact hstep
  · rw [heq] at h
    unfold mergeUnique at h
    dsimp only at h
    split at h
    · cases h
    · next name hname =>
      cases h
      exact .unique hplaced hrole hreplaces hclash name keepsStart
        (MemberName.ofText_eq_ok_iff.mp hname).symm _
  · rw [heq] at h
    unfold mergeHandler at h
    dsimp only at h
    split at h
    · cases h
    · next name hname =>
      cases h
      exact .handler hplaced hrole name hname _
    · next hname => exact absurd hname (Allocator.conform_outcome_ne_none hrole)

/-- The allocator stays that of its target. -/
theorem MethodStep.owner (h : MethodStep settings mixin s m t) :
    t.allocator.target = s.allocator.target := by
  cases h with
  | handler => exact Allocator.target_conform _ _ _ _
  | _ => rfl

/-- A handler that gets no name leaves the names of the others. -/
theorem allocator_of_conform_error {a : Allocator} {r : Registry} {handler : MixinMethod}
    {fault : NameError} (h : (a.conform r mixin handler).outcome = .error fault) :
    (a.conform r mixin handler).allocator = a := by
  unfold Allocator.conform at h ⊢
  split
  · rfl
  · dsimp only at h ⊢
    split
    · rfl
    · split
      · rfl
      · next hnone name hname => simp_all

/-- What a method leaves alone when it fails. -/
structure Untouched (s t : MergeState) : Prop where
  target : t.target = s.target
  report : t.report = s.report
  owner : t.allocator.target = s.allocator.target
  conformed : t.allocator.conformed = s.allocator.conformed

/-- A method fails before anything is done to the target, the report and the handlers
that have names. -/
theorem untouched_of_mergeMethod_error {fault : NameError}
    (h : mergeMethod settings mixin s m = .error (fault, t)) : Untouched s t := by
  rcases mergeMethod_cases settings mixin s m with
    ⟨u, hu, _⟩ | ⟨_, _, _, _, keepsStart, heq⟩ | ⟨_, _, heq⟩
  · rw [hu] at h
    cases h
  · rw [heq] at h
    unfold mergeUnique at h
    dsimp only at h
    split at h
    · cases h
      exact ⟨rfl, rfl, rfl, rfl⟩
    · cases h
  · rw [heq] at h
    unfold mergeHandler at h
    dsimp only at h
    split at h
    · next houtcome =>
      cases h
      have hsame := allocator_of_conform_error houtcome
      exact ⟨rfl, rfl, congrArg Allocator.target hsame, congrArg Allocator.conformed hsame⟩
    · cases h
    · cases h

/-! ## The stages before the methods -/

/-- Two states with the same methods: in the target, in the report, and among the
handlers that have names. -/
structure SameMethods (s t : MergeState) : Prop where
  kind : t.target.kind = s.target.kind
  methods : t.target.methods = s.target.methods
  merged : t.report.mergedMethods = s.report.mergedMethods
  owner : t.allocator.target = s.allocator.target
  conformed : t.allocator.conformed = s.allocator.conformed

theorem SameMethods.refl (s : MergeState) : SameMethods s s := ⟨rfl, rfl, rfl, rfl, rfl⟩

theorem SameMethods.trans {s t u : MergeState} (h : SameMethods s t) (h' : SameMethods t u) :
    SameMethods s u :=
  ⟨h'.kind.trans h.kind, h'.methods.trans h.methods, h'.merged.trans h.merged,
    h'.owner.trans h.owner, h'.conformed.trans h.conformed⟩

theorem sameMethods_addInterface (s : MergeState) (i : ClassName) :
    SameMethods s (addInterface s i) := by
  unfold addInterface
  split
  · exact .refl s
  · exact ⟨rfl, rfl, rfl, rfl, rfl⟩

theorem sameMethods_mergeShadow (mixin : Mixin) (s : MergeState) (f : MixinField) :
    SameMethods s (mergeShadow mixin s f) := by
  unfold mergeShadow
  split
  · exact ⟨rfl, rfl, rfl, rfl, rfl⟩
  · split
    · exact ⟨rfl, rfl, rfl, rfl, rfl⟩
    · exact .refl s

/-- Interfaces and shadows are merged without touching methods. -/
theorem sameMethods_before_fields (mixin : Mixin) (s : MergeState) :
    SameMethods s (mergeShadows mixin (addInterfaces mixin s)) := by
  have hfold : ∀ {α : Type} (f : MergeState → α → MergeState),
      (∀ s x, SameMethods s (f s x)) → ∀ (xs : List α) (s : MergeState),
        SameMethods s (xs.foldl f s) := by
    intro α f hf xs
    induction xs with
    | nil => exact SameMethods.refl
    | cons x xs ih =>
        intro s
        exact (hf s x).trans (ih (f s x))
  exact (hfold addInterface sameMethods_addInterface mixin.interfaces s).trans
    (hfold (mergeShadow mixin) (sameMethods_mergeShadow mixin) _ _)

/-- So is a field, whether it is merged or fails. -/
theorem sameMethods_mergeField (settings : Settings) (mixin : Mixin) (s : MergeState)
    (f : MixinField) : SameMethods s (Runs.final (mergeField settings mixin s f)) := by
  unfold mergeField
  split
  · split
    · dsimp only
      split
      · exact ⟨rfl, rfl, rfl, rfl, rfl⟩
      · exact ⟨rfl, rfl, rfl, rfl, rfl⟩
    · exact ⟨rfl, rfl, rfl, rfl, rfl⟩
  · exact ⟨rfl, rfl, rfl, rfl, rfl⟩

theorem sameMethods_mergeFields (settings : Settings) (mixin : Mixin) (s : MergeState) :
    SameMethods s (Runs.final (mergeFields settings mixin s)) :=
  Runs.foldlM_final_induction (P := SameMethods s)
    (fun u f hu => hu.trans (sameMethods_mergeField settings mixin u f)) (.refl s)

/-- Before the methods, an interface gets interfaces and shadows. -/
theorem mergeAll_nil_of_interface (h : s.target.kind = .interface) :
    mergeAll settings mixin [] s = .ok (mergeShadows mixin (addInterfaces mixin s)) := by
  have hkind := (sameMethods_before_fields mixin s).kind
  rw [h] at hkind
  unfold mergeAll
  simp only [hkind]
  rfl

/-- And a class gets fields as well, which may fail. -/
theorem mergeAll_nil_of_cls (h : s.target.kind = .cls) :
    mergeAll settings mixin [] s
      = mergeFields settings mixin (mergeShadows mixin (addInterfaces mixin s)) := by
  have hkind := (sameMethods_before_fields mixin s).kind
  rw [h] at hkind
  unfold mergeAll
  simp only [hkind]
  cases mergeFields settings mixin (mergeShadows mixin (addInterfaces mixin s)) <;> rfl

/-- The methods come last. -/
theorem mergeAll_eq_bind (settings : Settings) (mixin : Mixin) (methods : List MixinMethod)
    (s : MergeState) :
    mergeAll settings mixin methods s
      = mergeAll settings mixin [] s >>= mergeMethods settings mixin methods := by
  unfold mergeAll
  dsimp only
  split
  · cases mergeFields settings mixin (mergeShadows mixin (addInterfaces mixin s)) <;> rfl
  · rfl

/-- A whole merge either fails before the methods, or it comes to what merging the
methods comes to. -/
theorem mergeAll_cases (settings : Settings) (mixin : Mixin) (methods : List MixinMethod)
    (s : MergeState) :
    ∃ u, SameMethods s u ∧
      (mergeAll settings mixin methods s = mergeMethods settings mixin methods u ∨
        ∃ fault, mergeAll settings mixin methods s = .error (fault, u)) := by
  have hbefore := sameMethods_before_fields mixin s
  rw [mergeAll_eq_bind]
  cases hkind : s.target.kind with
  | interface =>
      rw [mergeAll_nil_of_interface hkind]
      exact ⟨_, hbefore, Or.inl rfl⟩
  | cls =>
      rw [mergeAll_nil_of_cls hkind]
      have hfields := sameMethods_mergeFields settings mixin (mergeShadows mixin
        (addInterfaces mixin s))
      cases hmerge : mergeFields settings mixin (mergeShadows mixin (addInterfaces mixin s)) with
      | ok u =>
          rw [hmerge] at hfields
          exact ⟨u, hbefore.trans hfields, Or.inl rfl⟩
      | error failure =>
          rw [hmerge] at hfields
          exact ⟨failure.2, hbefore.trans hfields, Or.inr ⟨failure.1, rfl⟩⟩

/-! ## The whole merge -/

/-- Applying a mixin either is refused and changes nothing, or comes to what the
run of all stages came to. -/
theorem apply_cases (settings : Settings) (target : Target) (mixin : Mixin)
    (allocator : Allocator) (registry : Registry) :
    (∃ errors, apply settings target mixin allocator registry
        = { outcome := .error (.rejected errors), target, allocator, registry, notices := [] }) ∨
      ∃ methods run, prepareMethods settings target.kind mixin = .ok methods ∧
        mergeAll settings mixin methods { target, allocator, registry } = run ∧
        (apply settings target mixin allocator registry).target = (Runs.final run).target ∧
        (apply settings target mixin allocator registry).allocator = (Runs.final run).allocator ∧
        ∀ report, (apply settings target mixin allocator registry).outcome = .ok report →
          ∃ s, run = .ok s ∧ s.report = report := by
  unfold apply
  split
  · next e es _ => exact Or.inl ⟨e :: es, rfl⟩
  · split
    · next fault _ => exact Or.inl ⟨[fault], rfl⟩
    · next methods hprep =>
      cases hmerge : mergeAll settings mixin methods { target, allocator, registry } with
      | error failure =>
          refine Or.inr ⟨methods, .error failure, hprep, hmerge, rfl, rfl, ?_⟩
          intro report hreport
          cases hreport
      | ok u =>
          refine Or.inr ⟨methods, .ok u, hprep, hmerge, rfl, rfl, ?_⟩
          intro report hreport
          cases hreport
          exact ⟨u, rfl, rfl⟩

end Merge

end ClassGraft
