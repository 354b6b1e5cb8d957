import ClassGraft.Proofs.Merge.Effect

/-!
# The report accounts for every member

A report is what a caller learns of a merge, so it should add up with the mixin on one side
and with the target on the other. Here it does: interfaces and fields of the target are the
old ones and then the reported ones, the methods of a mixin that are no shadows are the
reported ones and its initialisers, and no method of another origin appears.
-/

namespace ClassGraft

/-- How many methods of this name a mixin brings, shadows apart. -/
def Mixin.countNamed (mixin : Mixin) (name : MemberName) : Nat :=
  mixin.methods.countP fun m => m.role ≠ .shadow && m.name = name

/-- The report accounts for what happened to a target when the mixin was applied to it. -/
structure Report.Accounts (report : Report) (mixin : Mixin) (old new : Target) : Prop where
  /-- Interfaces are added at the end. -/
  interfaces : new.interfaces = old.interfaces ++ report.addedInterfaces
  /-- None is added twice. -/
  nodup : report.addedInterfaces.Nodup
  /-- None is added that was there, or that is the target itself. -/
  isNew : ∀ i ∈ report.addedInterfaces, i ∉ old.interfaces ∧ i ≠ old.name
  /-- Fields are added at the end. -/
  fieldNames : new.fields.map (·.name) = old.fields.map (·.name) ++ report.addedFields
  /-- A merged method is there, and comes from the mixin. -/
  merged : ∀ name ∈ report.mergedMethods,
    ∃ m ∈ new.methods, m.name = name ∧ m.mergedFrom = some mixin.name
  /-- A method that does not come from the mixin was there before, at the same place. -/
  others : ∀ (i : Nat) (m : TargetMethod), new.methods[i]? = some m →
    m.mergedFrom ≠ some mixin.name → old.methods[i]? = some m
  /-- Each method of the mixin that is no shadow is merged, or is an initialiser that has no
  place in the target. -/
  count : mixin.methods.countP (·.role ≠ .shadow)
    = report.mergedMethods.length + mixin.countNamed .constructor
      + if old.kind = .interface then mixin.countNamed .staticInitialiser else 0
  /-- In a class, each field of the mixin that is no shadow is either added, under its own
  name or a new one, or skipped because its name is taken. -/
  newFields : old.kind = .cls →
    ∃ (pushed : List (MixinField × MemberName)) (left : List MixinField),
    (pushed.map Prod.fst ++ left).Perm (mixin.fields.filter (·.role ≠ .shadow)) ∧
    report.addedFields = pushed.map Prod.snd ∧ report.skipped = left.map MixinField.signature ∧
    (∀ p ∈ pushed, p.2 = p.1.name ∨ (p.1.role = .unique ∧ ⟨p.1.name, p.2⟩ ∈ report.renamed)) ∧
    ∀ f ∈ left, f.role ≠ .unique ∧ new.hasFieldNamed f.name = true
  /-- What got a new name was added or merged under it. -/
  renamed : ∀ r ∈ report.renamed,
    r.renamed ∈ report.addedFields ∨ r.renamed ∈ report.mergedMethods

/-- A method has a place, or is a shadow, or is one of the initialisers without a place. -/
theorem Mixin.countP_not_shadow (mixin : Mixin) (kind : TargetKind) :
    mixin.methods.countP (·.role ≠ .shadow)
      = (mixin.methods.filter (·.isPlaced kind)).length + mixin.countNamed .constructor
        + if kind = .interface then mixin.countNamed .staticInitialiser else 0 := by
  have hdistinct : MemberName.staticInitialiser ≠ .constructor := by decide
  rw [← List.countP_eq_length_filter]
  unfold countNamed
  induction mixin.methods with
  | nil => cases kind <;> rfl
  | cons m ms ih =>
      simp only [List.countP_cons, ih]
      by_cases hshadow : m.role = .shadow
      · simp [MixinMethod.isPlaced, hshadow]
      by_cases hconstructor : m.name = .constructor
      · simp [MixinMethod.isPlaced, hshadow, hconstructor, hdistinct.symm]
        omega
      by_cases hstatic : m.name = .staticInitialiser
      · cases kind
        · simp [MixinMethod.isPlaced, hshadow, hstatic, hdistinct]
          omega
        · simp [MixinMethod.isPlaced, hshadow, hstatic, hdistinct]
          omega
      · simp [MixinMethod.isPlaced, hshadow, hconstructor, hstatic]
        omega

namespace Merge

/-- Whenever applying a mixin succeeds, its report accounts for what happened. -/
theorem accounts_of_apply {settings : Settings} {target : Target} {mixin : Mixin}
    {allocator : Allocator} {registry : Registry} {report : Report}
    (h : (apply settings target mixin allocator registry).outcome = .ok report) :
    report.Accounts mixin target (apply settings target mixin allocator registry).target := by
  obtain ⟨pushed, left, heffect⟩ := exists_effect_of_apply h
  obtain ⟨hlength, hput, _⟩ := methods_of_apply h
  have hfrom : ∀ x ∈ (report.placements target.kind mixin).map fun p =>
      (preparedMethod settings target.kind p.1).placed mixin p.2,
      x.mergedFrom = some mixin.name := by
    intro x hx
    obtain ⟨p, _, rfl⟩ := List.mem_map.mp hx
    rfl
  constructor
  case interfaces => exact heffect.interfaces
  case nodup => exact heffect.nodup
  case isNew => exact fun i hi => (heffect.isNew i hi).symm
  case fieldNames =>
    have hkeys := congrArg (List.map Prod.fst) heffect.fieldKeys_eq
    simpa [Target.fieldKeys, Function.comp_def, heffect.addedFields] using hkeys
  case merged =>
    intro name hname
    rw [← map_snd_placements_of_apply h] at hname
    obtain ⟨p, hp, rfl⟩ := List.mem_map.mp hname
    rw [hput]
    obtain ⟨m, hm, hmem, hsame, _⟩ := Target.exists_mem_putMethods (List.mem_map_of_mem hp)
    exact ⟨m, hm, hsame, hfrom m hmem⟩
  case others =>
    intro i m hm hother
    rw [hput] at hm
    rcases Target.mem_or_getElem?_of_putMethods hm with hput | hold
    · exact absurd (hfrom m hput) hother
    · exact hold
  case count => rw [hlength, mixin.countP_not_shadow target.kind]
  case newFields =>
    intro hcls
    have hperm := heffect.perm
    rw [hcls] at hperm
    exact ⟨pushed, left, hperm, heffect.addedFields, heffect.skipped hcls, heffect.named,
      heffect.taken⟩
  case renamed => exact heffect.renamed

end Merge

/-! ## A widget -/

namespace Widget

/-- The report accounts for the interface, the two fields and the method that are new. -/
theorem accounts_report : applied.outcome = .ok report ∧
    report.Accounts mixin target applied.target := by
  have houtcome : applied.outcome = .ok report := by decide +kernel
  exact ⟨houtcome, Merge.accounts_of_apply houtcome⟩

end Widget

end ClassGraft
