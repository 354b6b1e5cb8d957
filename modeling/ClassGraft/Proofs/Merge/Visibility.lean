import ClassGraft.Proofs.Merge.Preservation

/-!
# What interfaces receive

An interface takes public and private methods, and where its level has no private ones
it takes private synthetic ones. The audit goes by the flags one after the other: it
asks nothing more of a public method, only the level of a synthetic one, and the
private flag of any other that is merged. So there is one gap, a synthetic method that
is neither public nor private, and the statement here is exact: a merged method is
public or private unless it was declared like that and was not hidden as a handler.
-/

namespace ClassGraft

/-- A synthetic method with neither of the two visibilities that interfaces have. As a
handler it may be hidden yet, which makes it private. -/
def MixinMethod.isExposed (settings : Settings) (m : MixinMethod) : Bool :=
  m.flags.isSynthetic && !m.flags.isPublic && !m.flags.isPrivate
    && !(settings.hidesHandlers && m.role.isHandler)

/-- Private methods of interfaces came with a level. -/
theorem Settings.hasPrivateInterfaceMethods_iff {settings : Settings} :
    settings.hasPrivateInterfaceMethods = true ↔ .java9 ≤ settings.level := by
  simp only [hasPrivateInterfaceMethods, supports, Level.supports, List.all_cons, List.all_nil,
    Bool.and_true, Level.understands, LanguageFeature.since]
  exact decide_eq_true_iff

namespace Merge

variable {settings : Settings} {mixin : Mixin} {m : MixinMethod}

/-! ## One method -/

/-- What the audit lets into an interface: public methods, synthetic ones, initialisers,
and private ones if the level has them. -/
theorem checkDeclaration_cases (h : checkDeclaration settings .interface mixin m = .ok ()) :
    m.flags.isPublic = true ∨ m.flags.isSynthetic = true ∨ m.name = .staticInitialiser ∨
      (m.flags.isPrivate = true ∧ settings.hasPrivateInterfaceMethods = true) := by
  unfold checkDeclaration at h
  split at h
  · next hpublic => exact Or.inl (by simpa using hpublic)
  split at h
  · next hsynthetic => exact Or.inr (Or.inl hsynthetic)
  split at h
  · next hinitialiser => exact Or.inr (Or.inr (Or.inl (by simp_all)))
  split at h
  · next hprivate =>
    split at h
    · next hlevel => exact Or.inr (Or.inr (Or.inr ⟨hprivate, hlevel⟩))
    · cases h
  · cases h

/-- A method with a place in an interface, as it is merged: it is public or private
unless it is exposed, and synthetic if the level has private methods of no other kind. -/
theorem flags_preparedMethod (h : checkDeclaration settings .interface mixin m = .ok ())
    (hplaced : m.isPlaced .interface = true) {n : MixinMethod}
    (hn : preparedMethod settings .interface m = n) :
    (n.flags.isPublic || n.flags.isPrivate) = !m.isExposed settings ∧
      (settings.level < .java9 → n.flags.isPublic = false →
        n.flags.isSynthetic = true ∧ n.flags.isPrivate = !m.isExposed settings) := by
  subst hn
  by_cases hhidden : settings.hidesHandlers = true ∧ m.role.isHandler = true
  · -- A hidden handler is private and synthetic, whatever was declared.
    have hflags : (preparedMethod settings .interface m).flags
        = { m.flags.withVisibility .privateAccess with isSynthetic := true } := by
      simp [preparedMethod, hideHandler, hhidden]
    have hexposed : m.isExposed settings = false := by simp [MixinMethod.isExposed, hhidden]
    rw [hflags, hexposed]
    exact ⟨rfl, fun _ _ => ⟨rfl, rfl⟩⟩
  · have hsame : preparedMethod settings .interface m = m := by
      by_cases hhides : settings.hidesHandlers = true
      · have hhandler : m.role.isHandler = false := by simpa [hhides] using hhidden
        simp [preparedMethod, hideHandler, hhides, hhandler]
      · simp [preparedMethod, hhides]
    have hshown : (settings.hidesHandlers && m.role.isHandler) = false := by simpa using hhidden
    rw [hsame, MixinMethod.isExposed, hshown]
    rcases checkDeclaration_cases h with hpublic | hsynthetic | hname | ⟨hprivate, hlevel⟩
    · simp [hpublic]
    · cases hpublic : m.flags.isPublic <;> simp [hsynthetic]
    · simp [MixinMethod.isPlaced, hname] at hplaced
    · refine ⟨by simp [hprivate], fun hbelow => ?_⟩
      have hle := Settings.hasPrivateInterfaceMethods_iff.mp hlevel
      rw [Level.le_def] at hle
      rw [Level.lt_def] at hbelow
      omega

/-! ## All methods -/

/-- A method that the audit has no fault to find with is declared as it may be. -/
theorem checkDeclaration_of_audit {kind : TargetKind} (h : audit settings kind mixin = [])
    (hm : m ∈ mixin.methods) : checkDeclaration settings kind mixin m = .ok () := by
  simp only [audit, List.append_eq_nil_iff, List.flatMap_eq_nil_iff, methodFaults] at h
  exact Verdict.faults_eq_nil_iff.mp (h.1.2 m hm).1

/-- What was applied had passed the audit. -/
theorem audit_of_outcome {target : Target} {allocator : Allocator} {registry : Registry}
    {report : Report} (h : (apply settings target mixin allocator registry).outcome = .ok report) :
    audit settings target.kind mixin = [] := by
  by_contra haudit
  rw [apply_of_audit_ne_nil haudit] at h
  cases h

/-- The methods that a mixin merges into an interface: the ones that have a place, under
the names in the report. Each is public or private unless it is exposed; below the level
that has private methods, each that is not public is synthetic, and private unless it is
exposed. -/
theorem exists_merged_visibility {target : Target} {allocator : Allocator} {registry : Registry}
    {report : Report} (hkind : target.kind = .interface)
    (h : (apply settings target mixin allocator registry).outcome = .ok report) :
    ∃ merged : List (MixinMethod × TargetMethod),
      merged.map Prod.fst = mixin.methods.filter (·.isPlaced .interface) ∧
      merged.map (·.2.name) = report.mergedMethods ∧
      (apply settings target mixin allocator registry).target.methods
        = (target.putMethods (merged.map Prod.snd)).methods ∧
      ∀ p ∈ merged, p.2.mergedFrom = some mixin.name ∧ p.2.type = p.1.type ∧
        (p.2.flags.isPublic || p.2.flags.isPrivate) = !p.1.isExposed settings ∧
        (settings.level < .java9 → p.2.flags.isPublic = false →
          p.2.flags.isSynthetic = true ∧ p.2.flags.isPrivate = !p.1.isExposed settings) := by
  obtain ⟨hlength, hput, _⟩ := methods_of_apply h
  have haudit := audit_of_outcome h
  rw [hkind] at hlength hput haudit
  refine ⟨(report.placements .interface mixin).map fun p =>
    (p.1, (preparedMethod settings .interface p.1).placed mixin p.2), ?_, ?_, ?_, ?_⟩
  · rw [List.map_map]
    exact List.map_fst_zip hlength.ge
  · rw [List.map_map]
    exact List.map_snd_zip hlength.le
  · rw [hput, List.map_map]
    rfl
  · intro p hp
    obtain ⟨q, hq, rfl⟩ := List.mem_map.mp hp
    obtain ⟨hmem, hplaced⟩ := List.mem_filter.mp (List.of_mem_zip hq).1
    exact ⟨rfl, type_preparedMethod settings .interface q.1,
      flags_preparedMethod (checkDeclaration_of_audit haudit hmem) hplaced rfl⟩

/-- A mixin with a public handler. -/
def publicHandlerMixin : Mixin where
  name := .literal "mod/mixin/UpdateMixin"
  config := { name := "mod", source := some (Text.ofString "mod") }
  methods :=
    [{ name := .literal "onUpdate"
       type := { parameters := [], result := none }
       flags := { isPublic := true }
       role := .handler .inject }]

/-- The handler goes into an interface whose level hides it, so it is not exposed. -/
theorem exists_merged_visibility_handler :
    let settings := (sessionAt .java8).enable .injectorsInInterfaceMixins
    let after := apply settings interfaceTarget publicHandlerMixin (.new interfaceTarget.name) .empty
    interfaceTarget.kind = .interface ∧ settings.level < .java9 ∧
      ∃ report, after.outcome = .ok report ∧ ∃ merged : List (MixinMethod × TargetMethod),
        merged.map Prod.fst = publicHandlerMixin.methods.filter (·.isPlaced .interface) ∧
        merged.map (·.2.name) = report.mergedMethods ∧
        after.target.methods = (interfaceTarget.putMethods (merged.map Prod.snd)).methods ∧
        ∀ p ∈ merged, p.2.mergedFrom = some publicHandlerMixin.name ∧ p.2.type = p.1.type ∧
          (p.2.flags.isPublic || p.2.flags.isPrivate) = !p.1.isExposed settings ∧
          (settings.level < .java9 → p.2.flags.isPublic = false →
            p.2.flags.isSynthetic = true ∧ p.2.flags.isPrivate = !p.1.isExposed settings) := by
  intro settings after
  have haudit : audit settings interfaceTarget.kind publicHandlerMixin = [] := by decide
  obtain ⟨report, hreport⟩ := exists_report_of_audit_eq_nil
    (.enable .injectorsInInterfaceMixins (isBuilt_sessionAt .java8)) haudit
    (.new interfaceTarget.name) .empty
  exact ⟨rfl, by decide, report, hreport, exists_merged_visibility rfl hreport⟩

/-! ## An exposed method -/

/-- A mixin with a synthetic method that is neither public nor private. -/
def lambdaMixin : Mixin where
  name := .literal "mod/mixin/ApiMixin"
  config := { name := "mod", source := some (Text.ofString "mod") }
  methods :=
    [{ name := .literal "lambda$run$0"
       type := { parameters := [], result := none }
       flags := { isSynthetic := true }
       role := .plain }]

/-- The interface receives the method as it is. -/
theorem methods_apply_lambdaMixin :
    interfaceTarget.kind = .interface ∧ (sessionAt .java8).level < .java9 ∧
      (apply (sessionAt .java8) interfaceTarget lambdaMixin (.new interfaceTarget.name)
        .empty).outcome = .ok { mergedMethods := [.literal "lambda$run$0"] } ∧
      (apply (sessionAt .java8) interfaceTarget lambdaMixin (.new interfaceTarget.name)
        .empty).target.methods
          = [{ name := .literal "lambda$run$0"
               type := { parameters := [], result := none }
               flags := { isPublic := false, isPrivate := false, isSynthetic := true }
               mergedFrom := some lambdaMixin.name }] := by
  decide +kernel

end Merge

end ClassGraft
