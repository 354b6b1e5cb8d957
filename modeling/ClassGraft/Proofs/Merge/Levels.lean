import ClassGraft.Proofs.Merge.Visibility

/-!
# Audits at a higher level

A higher level understands whatever a lower one does, so what passes the audit should pass
it there as well. Nearly everything does: the kind of a field does not depend on the level,
what is declared asks for no more than a lowest level, and so does the feature that
lets injectors into interfaces. One permission goes the other way. Where interfaces have no
private methods, a static handler can only be public, and the audit lets it be; from the
level on that has them, it counts as a part of the target's API like any other static.

The main statement says exactly which faults that gives, in the order of the methods.
-/

namespace ClassGraft

/-- A static handler that can be seen: neither private nor synthetic, and no initialiser. -/
def MixinMethod.isOpenHandler (m : MixinMethod) : Bool :=
  m.role.isHandler && m.flags.isStatic && !m.flags.isPrivate && !m.flags.isSynthetic
    && !m.isInitialiser

/-! ## What settings allow -/

namespace Settings

variable {low high : Settings}

/-- A higher level supports whatever a lower one does. -/
theorem supports_mono (hlevel : low.level ≤ high.level) {fs : List LanguageFeature}
    (h : low.supports fs = true) : high.supports fs = true := by
  simp only [supports, Level.supports, List.all_eq_true] at h ⊢
  exact fun f hf => Level.understands_mono hlevel (h f hf)

/-- What is switched on and usable stays usable. -/
theorem isEnabled_mono (hlevel : low.level ≤ high.level) (hon : high.switchedOn = low.switchedOn)
    {f : Feature} (h : low.isEnabled f = true) : high.isEnabled f = true := by
  simp only [isEnabled, isAvailable, Bool.and_eq_true, decide_eq_true_eq, Level.le_def, hon] at *
  exact ⟨h.1, by omega⟩

/-- Interfaces have no private methods below the level that brought them. -/
theorem hasPrivateInterfaceMethods_eq_false_iff :
    low.hasPrivateInterfaceMethods = false ↔ low.level < .java9 := by
  rw [← Bool.not_eq_true, hasPrivateInterfaceMethods_iff, Level.le_def, Level.lt_def, Nat.not_le]

end Settings

namespace Merge

variable {low high : Settings} {kind : TargetKind} {mixin : Mixin} {m : MixinMethod}

/-! ## Checks that only get milder -/

/-- A declaration that is possible stays possible. -/
theorem checkDeclaration_mono (hlevel : low.level ≤ high.level)
    (h : checkDeclaration low kind mixin m = .ok ()) :
    checkDeclaration high kind mixin m = .ok () := by
  have hsynthetic : low.hasSyntheticInterfaceMethods = true →
      high.hasSyntheticInterfaceMethods = true := Settings.supports_mono hlevel
  have hprivate : low.hasPrivateInterfaceMethods = true →
      high.hasPrivateInterfaceMethods = true := Settings.supports_mono hlevel
  unfold checkDeclaration at h ⊢
  split_ifs at h ⊢ <;> simp_all

/-- Injectors that are let in stay in. -/
theorem injectorFaults_mono (hlevel : low.level ≤ high.level)
    (hon : high.switchedOn = low.switchedOn) (h : injectorFaults low kind mixin = []) :
    injectorFaults high kind mixin = [] := by
  cases kind with
  | cls => rfl
  | interface =>
      unfold injectorFaults prepareMethods at h ⊢
      cases hfirst : mixin.methods.find? fun m => m.role.isHandler with
      | none => rfl
      | some first =>
          simp only [hfirst] at h ⊢
          by_cases henabled : low.isEnabled .injectorsInInterfaceMixins = true
          · rw [if_pos (Settings.isEnabled_mono hlevel hon henabled)]
            rfl
          · rw [if_neg henabled] at h
            cases h

/-! ## The check that gets stricter -/

/-- An open handler passes where interfaces have no private methods, and nowhere else. -/
theorem checkStatic_of_isOpenHandler (settings : Settings) (h : m.isOpenHandler = true) :
    checkStatic settings kind mixin m
      = if kind = .interface ∧ settings.hasPrivateInterfaceMethods = false then .ok ()
        else .error (.illegal mixin.name m.signature .nonPrivateStaticMethod) := by
  simp only [MixinMethod.isOpenHandler, Bool.and_eq_true, Bool.not_eq_true'] at h
  obtain ⟨⟨⟨⟨hhandler, hstatic⟩, hprivate⟩, hsynthetic⟩, hinitialiser⟩ := h
  have hrole : ∀ role : Role, role.isHandler = false → m.role ≠ role := by
    rintro _ hother rfl
    rw [hhandler] at hother
    cases hother
  have hshadow : m.role ≠ .shadow := hrole .shadow rfl
  have hoverwrite : m.role ≠ .overwrite := hrole .overwrite rfl
  simp [checkStatic, hhandler, hstatic, hprivate, hsynthetic, hinitialiser, hshadow, hoverwrite]

/-- For every other method the settings make no difference. -/
theorem checkStatic_congr (low high : Settings) (h : m.isOpenHandler = false) :
    checkStatic low kind mixin m = checkStatic high kind mixin m := by
  by_cases hhandler : m.role.isHandler = true
  · simp only [MixinMethod.isOpenHandler, hhandler, Bool.true_and] at h
    unfold checkStatic
    split_ifs <;> simp_all
  · simp [checkStatic, hhandler]

/-- A method that passes at the lower level is faulty at the higher one only as an open handler
in an interface, where the lower level has no private methods and the higher one has them. -/
theorem methodFaults_of_level (hlevel : low.level ≤ high.level)
    (h : methodFaults low kind mixin m = []) :
    methodFaults high kind mixin m
      = if (kind = .interface ∧ low.level < .java9 ∧ .java9 ≤ high.level) ∧ m.isOpenHandler = true
        then [.illegal mixin.name m.signature .nonPrivateStaticMethod] else [] := by
  obtain ⟨hdeclaration, hstatic⟩ := List.append_eq_nil_iff.mp h
  rw [Verdict.faults_eq_nil_iff] at hdeclaration hstatic
  rw [methodFaults, checkDeclaration_mono hlevel hdeclaration]
  by_cases hopen : m.isOpenHandler = true
  · -- It passed, so this is an interface without private methods.
    rw [checkStatic_of_isOpenHandler low hopen] at hstatic
    obtain ⟨rfl, hnone⟩ : kind = .interface ∧ low.hasPrivateInterfaceMethods = false := by
      by_contra hne
      rw [if_neg hne] at hstatic
      cases hstatic
    have hbelow := Settings.hasPrivateInterfaceMethods_eq_false_iff.mp hnone
    rw [checkStatic_of_isOpenHandler high hopen]
    by_cases hpriv : high.hasPrivateInterfaceMethods = true
    · have habove := Settings.hasPrivateInterfaceMethods_iff.mp hpriv
      simp [hpriv, hbelow, habove, hopen, Verdict.faults]
    · have habove : ¬ .java9 ≤ high.level := fun hle =>
        hpriv (Settings.hasPrivateInterfaceMethods_iff.mpr hle)
      simp [hpriv, habove, Verdict.faults]
  · rw [← checkStatic_congr low high (by simpa using hopen), hstatic]
    simp [hopen, Verdict.faults]

/-! ## The whole audit -/

/-- Faults of some elements, one for each. -/
theorem flatMap_ite_singleton {α β : Type} (p : α → Bool) (f : α → β) (xs : List α) :
    (xs.flatMap fun x => if p x = true then [f x] else []) = (xs.filter p).map f := by
  induction xs with
  | nil => rfl
  | cons x xs ih => by_cases hx : p x = true <;> simp [hx, ih]

/-- Raising the level revokes one permission. A mixin that passes the audit at a level passes
it at a higher one, except where the target is an interface and private methods come in
between: there each open handler is a fault, in the order of the methods, and there are no
other faults. -/
theorem audit_of_level_lt {settings : Settings} {level : Level} (hlevel : settings.level < level)
    (h : audit settings kind mixin = []) :
    audit { settings with level := level } kind mixin
      = if kind = .interface ∧ settings.level < .java9 ∧ .java9 ≤ level then
          (mixin.methods.filter (·.isOpenHandler)).map fun m =>
            .illegal mixin.name m.signature .nonPrivateStaticMethod
        else [] := by
  have hle : settings.level ≤ level := Nat.le_of_lt hlevel
  obtain ⟨hmembers, hinjectors⟩ := List.append_eq_nil_iff.mp h
  obtain ⟨hfields, hmethods⟩ := List.append_eq_nil_iff.mp hmembers
  have hraised : ∀ m ∈ mixin.methods, methodFaults { settings with level := level } kind mixin m
      = if (kind = .interface ∧ settings.level < .java9 ∧ .java9 ≤ level) ∧ m.isOpenHandler = true
        then [.illegal mixin.name m.signature .nonPrivateStaticMethod] else [] := fun m hm =>
    methodFaults_of_level hle (List.flatMap_eq_nil_iff.mp hmethods m hm)
  have hadmitted : injectorFaults { settings with level := level } kind mixin = [] :=
    injectorFaults_mono hle rfl hinjectors
  rw [audit, hfields, List.flatMap_congr hraised, hadmitted, List.nil_append, List.append_nil]
  by_cases hbetween : kind = .interface ∧ settings.level < .java9 ∧ .java9 ≤ level
  · simp only [hbetween, and_self, true_and, if_true]
    exact flatMap_ite_singleton _ _ _
  · simp [hbetween]

/-- A mixin with an open handler and a synthetic one. -/
def openHandlerMixin : Mixin where
  name := .literal "mod/mixin/OpenMixin"
  config := { name := "mod", source := some (Text.ofString "mod") }
  methods :=
    [{ name := .literal "onLoad"
       type := { parameters := [], result := none }
       flags := { isPublic := true, isStatic := true }
       role := .handler .inject },
     { name := .literal "onSave"
       type := { parameters := [], result := none }
       flags := { isStatic := true, isSynthetic := true }
       role := .handler .redirect }]

/-- It passes for an interface below the level that has private methods, and from there on the
open handler is a fault. -/
theorem audit_openHandlerMixin_java9 :
    let settings := (sessionAt .java8).enable .injectorsInInterfaceMixins
    settings.level < .java9 ∧ audit settings .interface openHandlerMixin = [] ∧
      audit { settings with level := .java9 } .interface openHandlerMixin
        = [.illegal openHandlerMixin.name (Text.ofString "onLoad()V") .nonPrivateStaticMethod] := by
  intro settings
  have hlevel : settings.level < .java9 := by decide
  have haudit : audit settings .interface openHandlerMixin = [] := by decide
  refine ⟨hlevel, haudit, ?_⟩
  rw [audit_of_level_lt hlevel haudit, if_pos (by decide)]
  rfl

end Merge

end ClassGraft
