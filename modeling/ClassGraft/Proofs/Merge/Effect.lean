import ClassGraft.Proofs.Merge.Failure
import ClassGraft.Proofs.Merge.Fields
import ClassGraft.Proofs.Merge.Visibility

/-!
# What a merge does

A merge that succeeds goes through four stages, each of which does one thing to the target
and notes it in the report. There is one statement for each stage that says all of it:
interfaces are pushed, final flags are taken off, fields are pushed or left out, methods are
put. `Effect` collects them for the whole merge, in terms of the target before and after and
of the report, so that no later proof runs through the stages again.
-/

namespace ClassGraft

/-! ## Interfaces -/

namespace MergeState

/-- Add interfaces at the end of the list, and report them. -/
def pushInterfaces (s : MergeState) (added : List ClassName) : MergeState :=
  { s with
    target := { s.target with interfaces := s.target.interfaces ++ added }
    report := { s.report with addedInterfaces := s.report.addedInterfaces ++ added } }

theorem pushInterfaces_pushInterfaces (s : MergeState) (added later : List ClassName) :
    (s.pushInterfaces added).pushInterfaces later = s.pushInterfaces (added ++ later) := by
  simp only [pushInterfaces, List.append_assoc]

end MergeState

namespace Merge

/-- Of a list of interfaces, those are added that the target neither has nor is, each once. -/
theorem exists_foldl_addInterface (is : List ClassName) (s : MergeState) :
    ∃ added, is.foldl addInterface s = s.pushInterfaces added ∧ added.Nodup ∧
      (∀ i ∈ added, i ≠ s.target.name ∧ i ∉ s.target.interfaces) ∧
      ∀ i ∈ is, i = s.target.name ∨ i ∈ s.target.interfaces ++ added := by
  induction is generalizing s with
  | nil =>
      have hnone : s = s.pushInterfaces [] := by simp [MergeState.pushInterfaces]
      exact ⟨[], hnone, List.nodup_nil, by simp, by simp⟩
  | cons i is ih =>
      by_cases hthere : i = s.target.name ∨ i ∈ s.target.interfaces
      · have hfirst : addInterface s i = s := if_pos hthere
        obtain ⟨added, hrest, hnodup, hnew, hall⟩ := ih s
        refine ⟨added, by rw [List.foldl_cons, hfirst, hrest], hnodup, hnew, ?_⟩
        intro j hj
        rcases List.mem_cons.mp hj with rfl | hj
        · exact hthere.imp_right (List.mem_append_left added)
        · exact hall j hj
      · have hfirst : addInterface s i = s.pushInterfaces [i] := if_neg hthere
        obtain ⟨added, hrest, hnodup, hnew, hall⟩ := ih (s.pushInterfaces [i])
        simp only [MergeState.pushInterfaces, List.mem_append, List.mem_singleton,
          not_or] at hnew hall
        refine ⟨i :: added, ?_, ?_, ?_, ?_⟩
        · rw [List.foldl_cons, hfirst, hrest, MergeState.pushInterfaces_pushInterfaces]
          rfl
        · exact List.nodup_cons.mpr ⟨fun hmem => (hnew i hmem).2.2 rfl, hnodup⟩
        · intro j hj
          rcases List.mem_cons.mp hj with rfl | hj
          · exact not_or.mp hthere
          · exact ⟨(hnew j hj).1, (hnew j hj).2.1⟩
        · intro j hj
          simp only [List.mem_append, List.mem_cons]
          rcases List.mem_cons.mp hj with rfl | hj
          · exact Or.inr (Or.inr (Or.inl rfl))
          · rcases hall j hj with hname | (hold | hfirst) | hadded
            · exact Or.inl hname
            · exact Or.inr (Or.inl hold)
            · exact Or.inr (Or.inr (Or.inl hfirst))
            · exact Or.inr (Or.inr (Or.inr hadded))

end Merge

/-! ## Shadowed fields -/

/-- The field without the final flag. -/
def TargetField.unfinalised (f : TargetField) : TargetField :=
  { f with flags := { f.flags with isFinal := false } }

/-- The shadows of a mixin that are marked as writable, as far as targets of this kind heed
them. -/
def Mixin.mutableShadows (mixin : Mixin) : TargetKind → List MixinField
  | .cls => mixin.fields.filter fun f => f.role = .shadow && f.isMutable
  | .interface => []

theorem Mixin.mem_mutableShadows {mixin : Mixin} {kind : TargetKind} {f : MixinField}
    (h : f ∈ mixin.mutableShadows kind) : f ∈ mixin.fields ∧ f.role = .shadow := by
  cases kind with
  | cls =>
      obtain ⟨hmem, hrole, _⟩ : f ∈ mixin.fields ∧ f.role = .shadow ∧ f.isMutable = true := by
        simpa [mutableShadows] using h
      exact ⟨hmem, hrole⟩
  | interface => cases h

namespace Target

/-- The position of the first field with this name and type. -/
def fieldIndex? (t : Target) (name : MemberName) (type : FieldType ClassName) : Option Nat :=
  t.fields.findIdx? fun f => f.isAt name type

/-- A field is found by its name and type. -/
theorem fieldIndex?_eq_idxOf? (t : Target) (name : MemberName) (type : FieldType ClassName) :
    t.fieldIndex? name type = t.fieldKeys.idxOf? (name, type) := by
  rw [fieldIndex?, fieldKeys, List.idxOf?, List.findIdx?_map]
  congr 1

/-- The final flag is taken off one field at most: the first one with the name and type. -/
theorem getElem?_unfinaliseField {t : Target} {i : Nat} {f : TargetField}
    (hf : t.fields[i]? = some f) (name : MemberName) (type : FieldType ClassName) :
    (t.unfinaliseField name type).fields[i]?
      = some (if t.fieldIndex? name type = some i then f.unfinalised else f) := by
  have hlt : i < t.fields.length := (List.getElem?_eq_some_iff.mp hf).1
  have hindex : t.fieldIndex? name type = some i ↔
      t.fields.findIdx (fun f => f.isAt name type) = i := by
    rw [fieldIndex?, List.findIdx?_eq_guard_findIdx_lt, Option.guard_eq_some_iff]
    constructor
    · rintro ⟨h, _⟩
      exact h
    · rintro rfl
      exact ⟨rfl, by simpa using hlt⟩
  simp only [unfinaliseField, List.getElem?_modify, hf, hindex]
  split <;> rfl

/-- Take the final flag off the fields that shadows stand for. -/
def unfinaliseFields (t : Target) (shadows : List MixinField) : Target :=
  shadows.foldl (fun t f => t.unfinaliseField f.name f.type) t

/-- Nothing else changes. -/
theorem unfinaliseFields_eq (t : Target) (shadows : List MixinField) :
    t.unfinaliseFields shadows = { t with fields := (t.unfinaliseFields shadows).fields } := by
  induction shadows generalizing t with
  | nil => rfl
  | cons f shadows ih => exact ih (t.unfinaliseField f.name f.type)

/-- Only the fields of a target matter for which of them are changed. -/
theorem fields_unfinaliseFields_congr {t t' : Target} (h : t.fields = t'.fields)
    (shadows : List MixinField) :
    (t.unfinaliseFields shadows).fields = (t'.unfinaliseFields shadows).fields := by
  induction shadows generalizing t t' with
  | nil => exact h
  | cons f shadows ih =>
      refine ih ?_
      simp only [unfinaliseField, h]

@[simp] theorem fieldKeys_unfinaliseFields (t : Target) (shadows : List MixinField) :
    (t.unfinaliseFields shadows).fieldKeys = t.fieldKeys := by
  induction shadows generalizing t with
  | nil => rfl
  | cons f shadows ih => exact (ih _).trans (fieldKeys_unfinaliseField t f.name f.type)

/-- The final flag is taken off the fields that are the first with the name and type of a
shadow. -/
theorem getElem?_unfinaliseFields {t : Target} {i : Nat} {f : TargetField}
    (hf : t.fields[i]? = some f) (shadows : List MixinField) :
    (t.unfinaliseFields shadows).fields[i]? = some
      (if ∃ g ∈ shadows, t.fieldIndex? g.name g.type = some i then f.unfinalised else f) := by
  induction shadows generalizing t f with
  | nil => simpa [unfinaliseFields] using hf
  | cons g shadows ih =>
      have hfirst := getElem?_unfinaliseField hf g.name g.type
      have hindex : ∀ name type,
          (t.unfinaliseField g.name g.type).fieldIndex? name type = t.fieldIndex? name type := by
        intro name type
        rw [fieldIndex?_eq_idxOf?, fieldIndex?_eq_idxOf?, fieldKeys_unfinaliseField]
      have hrest := ih hfirst
      simp only [hindex] at hrest
      refine hrest.trans ?_
      simp only [List.mem_cons, exists_eq_or_imp]
      by_cases hg : t.fieldIndex? g.name g.type = some i
      · simp [hg, TargetField.unfinalised]
      · simp [hg]

end Target

namespace Merge

variable {settings : Settings} {mixin : Mixin} {s t u : MergeState}

/-- In a class, writable shadows take final flags off. -/
theorem foldl_mergeShadow_of_cls (fs : List MixinField) (hkind : s.target.kind = .cls) :
    fs.foldl (mergeShadow mixin) s
      = { s with target := s.target.unfinaliseFields (fs.filter (·.isMutable)) } := by
  induction fs generalizing s with
  | nil => rfl
  | cons f fs ih =>
      have hfirst : mergeShadow mixin s f
          = { s with target := s.target.unfinaliseFields ([f].filter (·.isMutable)) } := by
        unfold mergeShadow
        simp only [hkind, List.filter_cons, List.filter_nil]
        split <;> rfl
      rw [List.foldl_cons, hfirst, ih]
      · cases hmutable : f.isMutable <;> simp [hmutable, Target.unfinaliseFields]
      · rw [Target.unfinaliseFields_eq]
        exact hkind

/-- In an interface, shadows are noted in the log only. -/
theorem exists_foldl_mergeShadow_of_interface (fs : List MixinField)
    (hkind : s.target.kind = .interface) :
    ∃ notices, fs.foldl (mergeShadow mixin) s = { s with notices := notices } := by
  induction fs generalizing s with
  | nil => exact ⟨s.notices, rfl⟩
  | cons f fs ih =>
      have hfirst : mergeShadow mixin s f = s.note (shadowNotices mixin s.target f) := by
        simp only [mergeShadow, hkind]
      obtain ⟨notices, hrest⟩ := ih (s := s.note (shadowNotices mixin s.target f)) hkind
      refine ⟨notices, ?_⟩
      rw [List.foldl_cons, hfirst, hrest]
      rfl

/-- So merging shadows changes final flags, and the log, and nothing else. -/
theorem exists_mergeShadows (mixin : Mixin) (s : MergeState) :
    ∃ notices, mergeShadows mixin s = { s with
      target := s.target.unfinaliseFields (mixin.mutableShadows s.target.kind)
      notices := notices } := by
  unfold mergeShadows
  cases hkind : s.target.kind with
  | cls =>
      refine ⟨s.notices, ?_⟩
      rw [foldl_mergeShadow_of_cls _ hkind, List.filter_filter]
      simp only [Mixin.mutableShadows, Bool.and_comm]
  | interface => exact exists_foldl_mergeShadow_of_interface _ hkind

/-! ## New fields -/

/-- What merging a new field comes to, unless it fails. -/
inductive FieldStep (settings : Settings) (mixin : Mixin) (s : MergeState) (f : MixinField) :
    MergeState → Prop
  /-- The field keeps its name, which nothing has. -/
  | declared (hfree : s.target.hasFieldNamed f.name = false) :
      FieldStep settings mixin s f (pushField s f f.name)
  /-- The name is taken, and the field is left out. -/
  | skipped (hclash : s.target.hasFieldNamed f.name = true) (hrole : f.role ≠ .unique)
      (notices : List Notice) :
      FieldStep settings mixin s f (MergeState.skip { s with notices := notices } f.signature)
  /-- The name is taken, and another one is made for the field. -/
  | generated (hclash : s.target.hasFieldNamed f.name = true) (hrole : f.role = .unique)
      (name : MemberName) (notices : List Notice) :
      FieldStep settings mixin s f
        (pushField (MergeState.rename { s with
          notices := notices
          allocator := { s.allocator with nextField := s.allocator.nextField + 1 } }
          f.name name) f name)

/-- A field that is merged is merged in one of these ways. -/
theorem fieldStep_of_mergeField {f : MixinField} (h : mergeField settings mixin s f = .ok t) :
    FieldStep settings mixin s f t := by
  unfold mergeField at h
  split at h
  · next hclash =>
    split at h
    · next hrole =>
      dsimp only at h
      split at h
      · cases h
      · next name _ =>
        cases h
        exact .generated hclash hrole name _
    · next hrole =>
      cases h
      exact .skipped hclash hrole _
  · next hfree =>
    cases h
    exact .declared (by simpa using hfree)

end Merge

/-- The field as it stands in the target under its final name. -/
def MixinField.placed (f : MixinField) (name : MemberName) : TargetField :=
  { name := name, type := f.type, flags := f.flags }

/-- The fields that a mixin adds to targets of this kind, or tries to. -/
def Mixin.newFields (mixin : Mixin) : TargetKind → List MixinField
  | .cls => mixin.fields.filter fun f => f.role ≠ .shadow
  | .interface => []

theorem Mixin.mem_newFields {mixin : Mixin} {kind : TargetKind} {f : MixinField}
    (h : f ∈ mixin.newFields kind) : f ∈ mixin.fields ∧ f.role ≠ .shadow := by
  cases kind with
  | cls => simpa [newFields] using h
  | interface => cases h

namespace Merge

variable {settings : Settings} {mixin : Mixin} {s t u : MergeState}

/-- What merging fields comes to: each of them is either pushed, under its own name or one
that was made for it, or left out because its name is taken. -/
structure FieldsMerged (s : MergeState) (fs : List MixinField)
    (pushed : List (MixinField × MemberName)) (left : List MixinField) (t : MergeState) :
    Prop where
  target : t.target = { s.target with
    fields := s.target.fields ++ pushed.map fun p => p.1.placed p.2 }
  addedFields : t.report.addedFields = s.report.addedFields ++ pushed.map Prod.snd
  skipped : t.report.skipped = s.report.skipped ++ left.map MixinField.signature
  addedInterfaces : t.report.addedInterfaces = s.report.addedInterfaces
  initialisersApplied : t.report.initialisersApplied = s.report.initialisersApplied
  perm : (pushed.map Prod.fst ++ left).Perm fs
  named : ∀ p ∈ pushed, p.2 = p.1.name ∨ (p.1.role = .unique ∧ ⟨p.1.name, p.2⟩ ∈ t.report.renamed)
  taken : ∀ f ∈ left, f.role ≠ .unique ∧ t.target.hasFieldNamed f.name = true
  kept : s.report.renamed ⊆ t.report.renamed
  renamed : ∀ r ∈ t.report.renamed, r ∈ s.report.renamed ∨ r.renamed ∈ pushed.map Prod.snd

/-- A name that is taken stays taken. -/
theorem hasFieldNamed_of_append {t : Target} {later : List TargetField} {name : MemberName}
    (h : t.hasFieldNamed name = true) :
    Target.hasFieldNamed { t with fields := t.fields ++ later } name = true := by
  simp only [Target.hasFieldNamed] at h ⊢
  rw [List.any_append, h, Bool.true_or]

namespace FieldsMerged

theorem refl (s : MergeState) : FieldsMerged s [] [] [] s where
  target := by simp
  addedFields := by simp
  skipped := by simp
  addedInterfaces := rfl
  initialisersApplied := rfl
  perm := .nil
  named := by simp
  taken := by simp
  kept := List.Subset.refl _
  renamed := fun r hr => Or.inl hr

theorem of_step {f : MixinField} (h : FieldStep settings mixin s f t) :
    ∃ pushed left, FieldsMerged s [f] pushed left t := by
  cases h with
  | declared hfree =>
      refine ⟨[(f, f.name)], [], ?_⟩
      constructor <;> simp +contextual [pushField, Target.pushField, MixinField.placed]
  | skipped hclash hrole notices =>
      refine ⟨[], [f], ?_⟩
      constructor <;> simp [MergeState.skip, hclash, hrole]
  | generated hclash hrole name notices =>
      refine ⟨[(f, name)], [], ?_⟩
      constructor <;>
        simp [pushField, MergeState.rename, Target.pushField, MixinField.placed, hrole]
      rintro r (hold | rfl)
      · exact Or.inl hold
      · exact Or.inr rfl

theorem trans {fs gs : List MixinField} {pushed later : List (MixinField × MemberName)}
    {left rest : List MixinField} (h : FieldsMerged s fs pushed left t)
    (h' : FieldsMerged t gs later rest u) :
    FieldsMerged s (fs ++ gs) (pushed ++ later) (left ++ rest) u where
  target := by rw [h'.target, h.target]; simp
  addedFields := by rw [h'.addedFields, h.addedFields]; simp
  skipped := by rw [h'.skipped, h.skipped]; simp
  addedInterfaces := h'.addedInterfaces.trans h.addedInterfaces
  initialisersApplied := h'.initialisersApplied.trans h.initialisersApplied
  perm := by
    have hswap : ((pushed ++ later).map Prod.fst ++ (left ++ rest)).Perm
        ((pushed.map Prod.fst ++ left) ++ (later.map Prod.fst ++ rest)) := by
      simp only [List.map_append, List.append_assoc]
      exact (List.perm_append_comm_assoc _ _ _).append_left _
    exact hswap.trans (h.perm.append h'.perm)
  named := by
    intro p hp
    rcases List.mem_append.mp hp with hp | hp
    · exact (h.named p hp).imp_right fun ⟨hrole, hmem⟩ => ⟨hrole, h'.kept hmem⟩
    · exact h'.named p hp
  taken := by
    intro f hf
    rcases List.mem_append.mp hf with hf | hf
    · refine ⟨(h.taken f hf).1, ?_⟩
      rw [h'.target]
      exact hasFieldNamed_of_append (h.taken f hf).2
    · exact h'.taken f hf
  kept := List.Subset.trans h.kept h'.kept
  renamed := by
    intro r hr
    rw [List.map_append, List.mem_append]
    rcases h'.renamed r hr with hr | hr
    · exact (h.renamed r hr).imp_right Or.inl
    · exact Or.inr (Or.inr hr)

end FieldsMerged

/-- So are the fields of a mixin, one after the other. -/
theorem exists_fieldsMerged {fs : List MixinField}
    (h : fs.foldlM (mergeField settings mixin) s = .ok t) :
    ∃ pushed left, FieldsMerged s fs pushed left t := by
  induction fs generalizing s with
  | nil =>
      cases h
      exact ⟨[], [], .refl _⟩
  | cons f fs ih =>
      obtain ⟨u, hfirst, hrest⟩ := Runs.foldlM_cons_eq_ok_iff.mp h
      obtain ⟨pushed, left, hstep⟩ := FieldsMerged.of_step (fieldStep_of_mergeField hfirst)
      obtain ⟨later, rest, hrun⟩ := ih hrest
      exact ⟨_, _, hstep.trans hrun⟩

/-! ## Methods -/

/-- What merging methods does besides putting them: it leaves the rest of the target and
what the report says of interfaces and fields, and a new name is that of a method that was
put. Only interfaces leave methods out, and only classes take code of constructors. -/
structure MethodsMerged (s t : MergeState) : Prop where
  target : ∃ methods, t.target = { s.target with methods }
  addedInterfaces : t.report.addedInterfaces = s.report.addedInterfaces
  addedFields : t.report.addedFields = s.report.addedFields
  skipped : s.target.kind = .cls → t.report.skipped = s.report.skipped
  initialisersApplied : s.target.kind = .interface →
    t.report.initialisersApplied = s.report.initialisersApplied
  kept : s.report.renamed ⊆ t.report.renamed
  merged : s.report.mergedMethods ⊆ t.report.mergedMethods
  renamed : ∀ r ∈ t.report.renamed, r ∈ s.report.renamed ∨ r.renamed ∈ t.report.mergedMethods

namespace MethodsMerged

variable {s t u : MergeState}

/-- Neither names nor the log matter. -/
theorem of_eq (htarget : t.target = s.target) (hreport : t.report = s.report) :
    MethodsMerged s t := by
  constructor <;> simp +contextual [htarget, hreport]
  exact ⟨_, rfl⟩

theorem trans (h : MethodsMerged s t) (h' : MethodsMerged t u) : MethodsMerged s u := by
  obtain ⟨methods, htarget⟩ := h.target
  obtain ⟨methods', htarget'⟩ := h'.target
  have hkind : t.target.kind = s.target.kind := by rw [htarget]
  constructor
  case target => exact ⟨methods', by rw [htarget', htarget]⟩
  case addedInterfaces => exact h'.addedInterfaces.trans h.addedInterfaces
  case addedFields => exact h'.addedFields.trans h.addedFields
  case skipped => exact fun hcls => (h'.skipped (hkind.trans hcls)).trans (h.skipped hcls)
  case initialisersApplied =>
    exact fun hinterface => (h'.initialisersApplied (hkind.trans hinterface)).trans
      (h.initialisersApplied hinterface)
  case kept => exact List.Subset.trans h.kept h'.kept
  case merged => exact List.Subset.trans h.merged h'.merged
  case renamed =>
    intro r hr
    rcases h'.renamed r hr with hr | hr
    · exact (h.renamed r hr).imp_right fun hmem => h'.merged hmem
    · exact Or.inr hr

theorem putMethod (mixin : Mixin) (s : MergeState) (m : MixinMethod) (name : MemberName) :
    MethodsMerged s (Merge.putMethod mixin s m name) := by
  constructor <;> simp +contextual [Merge.putMethod]
  exact Target.exists_putMethod_eq _ _

theorem putRenamed (mixin : Mixin) (s : MergeState) (m : MixinMethod) (name : MemberName) :
    MethodsMerged s (Merge.putRenamed mixin s m name) := by
  constructor <;> simp [Merge.putRenamed, Merge.putMethod, MergeState.rename]
  · exact Target.exists_putMethod_eq _ _
  · rintro r (hold | rfl)
    · exact Or.inl hold
    · exact Or.inr (Or.inr rfl)

/-- A method is merged like that. -/
theorem of_step {m : MixinMethod} (h : MethodStep settings mixin s m t) : MethodsMerged s t := by
  cases h with
  | shadow => exact .of_eq rfl rfl
  | initialiser hrole hname hkind =>
      constructor <;> simp +contextual [hkind]
      exact ⟨s.target.methods, by rw [← hkind]⟩
  | skipped hrole hname hkind =>
      constructor <;> simp +contextual [MergeState.skip, hkind]
      exact ⟨s.target.methods, by rw [← hkind]⟩
  | declared =>
      refine trans ?_ (putMethod mixin _ m m.name)
      exact .of_eq rfl rfl
  | unique | handler =>
      refine trans ?_ (putRenamed mixin _ m _)
      exact .of_eq rfl rfl

end MethodsMerged

theorem methodsMerged_of_mergeMethods {ms : List MixinMethod}
    (h : mergeMethods settings mixin ms s = .ok t) : MethodsMerged s t :=
  Runs.foldlM_induction (P := MethodsMerged s)
    (fun _ _ _ _ hs hstep => hs.trans (.of_step (methodStep_of_mergeMethod hstep)))
    (.of_eq rfl rfl) h

/-! ## The whole merge -/

/-- What applying a mixin does to a target, apart from its methods: interfaces come at the
end, final flags are taken off, and new fields come at the end or are left out. -/
structure Effect (mixin : Mixin) (old new : Target) (report : Report)
    (pushed : List (MixinField × MemberName)) (left : List MixinField) : Prop where
  name : new.name = old.name
  kind : new.kind = old.kind
  interfaces : new.interfaces = old.interfaces ++ report.addedInterfaces
  nodup : report.addedInterfaces.Nodup
  isNew : ∀ i ∈ report.addedInterfaces, i ≠ old.name ∧ i ∉ old.interfaces
  hasAll : ∀ i ∈ mixin.interfaces, i = new.name ∨ i ∈ new.interfaces
  fields : new.fields = (old.unfinaliseFields (mixin.mutableShadows old.kind)).fields
    ++ pushed.map fun p => p.1.placed p.2
  addedFields : report.addedFields = pushed.map Prod.snd
  perm : (pushed.map Prod.fst ++ left).Perm (mixin.newFields old.kind)
  named : ∀ p ∈ pushed, p.2 = p.1.name ∨ (p.1.role = .unique ∧ ⟨p.1.name, p.2⟩ ∈ report.renamed)
  taken : ∀ f ∈ left, f.role ≠ .unique ∧ new.hasFieldNamed f.name = true
  skipped : old.kind = .cls → report.skipped = left.map MixinField.signature
  renamed : ∀ r ∈ report.renamed, r.renamed ∈ report.addedFields ∨ r.renamed ∈ report.mergedMethods
  initialisersApplied : old.kind = .interface → report.initialisersApplied = false

namespace Effect

variable {old new : Target} {report : Report} {pushed : List (MixinField × MemberName)}
  {left : List MixinField}

/-- Fields that were pushed are new fields of the mixin. -/
theorem mem_of_mem_pushed (h : Effect mixin old new report pushed left)
    {p : MixinField × MemberName} (hp : p ∈ pushed) : p.1 ∈ mixin.newFields old.kind :=
  h.perm.subset (List.mem_append_left left (List.mem_map_of_mem hp))

/-- Names and types of fields are added at the end. -/
theorem fieldKeys_eq (h : Effect mixin old new report pushed left) :
    new.fieldKeys = old.fieldKeys ++ pushed.map fun p => (p.2, p.1.type) := by
  have hold := old.fieldKeys_unfinaliseFields (mixin.mutableShadows old.kind)
  simp only [Target.fieldKeys] at hold ⊢
  rw [h.fields, List.map_append, List.map_map, hold]
  rfl

end Effect

section Whole

variable {target : Target} {allocator : Allocator} {registry : Registry} {report : Report}

/-- Where applying a mixin succeeds, the run of all stages does. -/
theorem exists_mergeAll_of_outcome
    (h : (apply settings target mixin allocator registry).outcome = .ok report) :
    ∃ s, mergeAll settings mixin (mixin.methods.map (preparedMethod settings target.kind))
        { target, allocator, registry } = .ok s ∧ s.report = report ∧
      (apply settings target mixin allocator registry).target = s.target ∧
      (apply settings target mixin allocator registry).allocator = s.allocator := by
  have haudit := audit_of_outcome h
  cases hmerge : mergeAll settings mixin (mixin.methods.map (preparedMethod settings target.kind))
      { target, allocator, registry } with
  | error failure =>
      obtain ⟨fault, u⟩ := failure
      rw [apply_of_mergeAll_eq_error haudit hmerge] at h
      cases h
  | ok s =>
      obtain ⟨houtcome, htarget, hallocator⟩ := apply_of_mergeAll_eq_ok haudit hmerge
      exact ⟨s, rfl, Except.ok.inj (houtcome.symm.trans h), htarget, hallocator⟩

/-- The stages before the methods: interfaces and shadows, and new fields where there are
any. -/
theorem exists_fieldsMerged_of_mergeAll (h : mergeAll settings mixin [] s = .ok t) :
    ∃ pushed left, FieldsMerged (mergeShadows mixin (addInterfaces mixin s))
      (mixin.newFields s.target.kind) pushed left t := by
  cases hkind : s.target.kind with
  | interface =>
      rw [mergeAll_nil_of_interface hkind] at h
      obtain rfl := Except.ok.inj h
      exact ⟨[], [], .refl _⟩
  | cls =>
      rw [mergeAll_nil_of_cls hkind] at h
      exact exists_fieldsMerged h

/-- Applying a mixin has this effect, if it succeeds. -/
theorem exists_effect_of_apply
    (h : (apply settings target mixin allocator registry).outcome = .ok report) :
    ∃ pushed left, Effect mixin target (apply settings target mixin allocator registry).target
      report pushed left := by
  obtain ⟨s, hmerge, rfl, htarget, _⟩ := exists_mergeAll_of_outcome h
  rw [mergeAll_eq_bind] at hmerge
  obtain ⟨u, hbefore, hmethods⟩ := Runs.bind_eq_ok_iff.mp hmerge
  obtain ⟨pushed, left, hfields⟩ := exists_fieldsMerged_of_mergeAll hbefore
  have hput := methodsMerged_of_mergeMethods hmethods
  obtain ⟨added, hadded, hnodup, hnew, hall⟩ :=
    exists_foldl_addInterface mixin.interfaces { target, allocator, registry }
  obtain ⟨notices, hshadows⟩ := exists_mergeShadows mixin
    (MergeState.pushInterfaces { target, allocator, registry } added)
  rw [addInterfaces, hadded, hshadows] at hfields
  -- The target is what the stages made of it one after the other.
  obtain ⟨methods, hafter⟩ := hput.target
  rw [hfields.target, Target.unfinaliseFields_eq] at hafter
  simp only [MergeState.pushInterfaces] at hafter
  have hnames : ∀ name, s.target.hasFieldNamed name = u.target.hasFieldNamed name := by
    intro name
    obtain ⟨_, hsame⟩ := hput.target
    rw [hsame]
    rfl
  have hinterfaces : s.report.addedInterfaces = added := by
    rw [hput.addedInterfaces, hfields.addedInterfaces]
    exact List.nil_append added
  have haddedFields : s.report.addedFields = pushed.map Prod.snd := by
    rw [hput.addedFields, hfields.addedFields]
    exact List.nil_append _
  have hukind : u.target.kind = target.kind := by
    rw [hfields.target, Target.unfinaliseFields_eq]
    rfl
  refine ⟨pushed, left, ?_⟩
  rw [htarget]
  constructor
  case name => rw [hafter]
  case kind => rw [hafter]
  case interfaces => rw [hafter, hinterfaces]
  case nodup => exact hinterfaces ▸ hnodup
  case isNew => exact hinterfaces ▸ hnew
  case hasAll =>
    rw [hafter]
    exact hall
  case fields =>
    have hsame : ∀ shadows, (Target.unfinaliseFields
        { target with interfaces := target.interfaces ++ added } shadows).fields
          = (target.unfinaliseFields shadows).fields :=
      Target.fields_unfinaliseFields_congr rfl
    rw [hafter, ← hsame]
  case addedFields => exact haddedFields
  case perm => exact hfields.perm
  case named => exact fun p hp => (hfields.named p hp).imp_right fun ⟨hrole, hmem⟩ =>
    ⟨hrole, hput.kept hmem⟩
  case taken =>
    intro f hf
    rw [hnames]
    exact hfields.taken f hf
  case skipped =>
    intro hcls
    rw [hput.skipped (hukind.trans hcls), hfields.skipped]
    exact List.nil_append _
  case renamed =>
    intro r hr
    rcases hput.renamed r hr with hr | hr
    · rcases hfields.renamed r hr with hr | hr
      · cases hr
      · exact Or.inl (haddedFields ▸ hr)
    · exact Or.inr hr
  case initialisersApplied =>
    intro hinterface
    rw [hput.initialisersApplied (hukind.trans hinterface), hfields.initialisersApplied]
    rfl

end Whole

end Merge

/-! ## A widget -/

namespace Widget

/-- A class that can be drawn, with a counter. -/
def target : Target where
  name := .literal "a/Widget"
  kind := .cls
  interfaces := [.literal "a/Drawable"]
  fields :=
    [{ name := .literal "count"
       type := .primitive .int
       flags := { isPrivate := true, isFinal := true } }]
  methods :=
    [{ name := .literal "helper"
       type := { parameters := [], result := none }
       flags := { isPrivate := true } }]

/-- A mixin that makes the widget clickable. -/
def mixin : Mixin where
  name := .literal "mod/mixin/WidgetMixin"
  config := { name := "mod", source := some (Text.ofString "mymod") }
  interfaces := [.literal "a/Drawable", .literal "a/Widget", .literal "a/Clickable"]
  fields :=
    [{ name := .literal "count"
       type := .primitive .int
       flags := { isPrivate := true }
       role := .shadow
       isMutable := true },
     { name := .literal "count"
       type := .primitive .int
       flags := { isPrivate := true }
       role := .unique },
     { name := .literal "clicks"
       type := .primitive .int
       flags := { isPrivate := true }
       role := .plain }]
  methods :=
    [{ name := .literal "helper"
       type := { parameters := [], result := none }
       flags := { isPrivate := true }
       role := .unique },
     { name := .constructor
       type := { parameters := [], result := none }
       flags := { isPublic := true }
       role := .plain },
     { name := .literal "helper"
       type := { parameters := [], result := none }
       flags := { isPrivate := true }
       role := .shadow }]

/-- What applying the mixin to the widget comes to. -/
def applied : Applied :=
  Merge.apply (Merge.sessionAt .java8) target mixin (.new target.name) .empty

/-- The report of making the widget clickable. -/
def report : Report where
  addedInterfaces := [.literal "a/Clickable"]
  addedFields := [.literal "fdefwxyz$mymod$count$0", .literal "clicks"]
  mergedMethods := [.literal "mdefwxyz$mymod$helper$0"]
  renamed :=
    [⟨.literal "count", .literal "fdefwxyz$mymod$count$0"⟩,
     ⟨.literal "helper", .literal "mdefwxyz$mymod$helper$0"⟩]
  initialisersApplied := true

end Widget

end ClassGraft
