import ClassGraft.Proofs.Merge.Preservation
import ClassGraft.Proofs.Merge.Reapplication

/-!
# What a failure leaves behind

A mixin that the audit rejects changes nothing. After the audit a merge can still fail,
at a unique or synthetic member that clashes: the name that is generated for it holds the
session id, and settings can be put together with a session id that nobody checked.
Then nothing is taken back. The target is left as the part of the mixin that comes before
that member leaves it, and that part taken as a mixin is applied without a failure.

With the stages of a merge in mind, what comes before a field is all interfaces, all
shadows, and the fields in front of it; what comes before a method is everything but the
method and those behind it.
-/

namespace ClassGraft

namespace Mixin

/-- The mixin without a field, what comes after the field, and the methods; shadows come
first, so those behind the field stay. -/
def beforeField (mixin : Mixin) (before after : List MixinField) : Mixin :=
  { mixin with fields := before ++ after.filter (fun f => f.role = .shadow), methods := [] }

/-- The mixin with the methods in front of one only. -/
def beforeMethod (mixin : Mixin) (before : List MixinMethod) : Mixin :=
  { mixin with methods := before }

/-- Some of the members of a mixin, under its name. -/
structure IsPartOf (part mixin : Mixin) : Prop where
  name : part.name = mixin.name
  fields : part.fields ⊆ mixin.fields
  methods : part.methods ⊆ mixin.methods

theorem isPartOf_beforeField {mixin : Mixin} {before after : List MixinField} {f : MixinField}
    (h : mixin.fields = before ++ f :: after) : (mixin.beforeField before after).IsPartOf mixin := by
  refine ⟨rfl, ?_, List.nil_subset _⟩
  intro g hg
  rw [h]
  rcases List.mem_append.mp hg with hg | hg
  · exact List.mem_append_left _ hg
  · exact List.mem_append_right _ (List.mem_cons_of_mem _ (List.mem_filter.mp hg).1)

theorem isPartOf_beforeMethod {mixin : Mixin} {before after : List MixinMethod} {m : MixinMethod}
    (h : mixin.methods = before ++ m :: after) : (mixin.beforeMethod before).IsPartOf mixin := by
  refine ⟨rfl, List.Subset.refl _, ?_⟩
  rw [h]
  exact List.subset_append_left _ _

end Mixin

namespace Merge

variable {settings : Settings} {mixin part : Mixin} {s t u : MergeState} {fault : NameError}

/-! ## Parts pass the audit -/

/-- Where the methods of a mixin can be prepared, so can those of a part. -/
theorem exists_prepareMethods_of_isPartOf {kind : TargetKind} {ms : List MixinMethod}
    (hpart : part.IsPartOf mixin) (h : prepareMethods settings kind mixin = .ok ms) :
    ∃ ns, prepareMethods settings kind part = .ok ns := by
  unfold prepareMethods at h ⊢
  cases kind with
  | cls => exact ⟨_, rfl⟩
  | interface =>
      dsimp only at h ⊢
      split
      · exact ⟨_, rfl⟩
      · next first hfirst =>
        -- A handler of the part is one of the mixin, so handlers are enabled.
        have hmem := hpart.methods (List.mem_of_find?_eq_some hfirst)
        have hhandler := List.find?_some hfirst
        split at h
        · next hnone => exact absurd hhandler (List.find?_eq_none.mp hnone first hmem)
        · split at h
          · next henabled => exact ⟨_, if_pos henabled⟩
          · cases h

/-- A part of a mixin without faults has none. -/
theorem audit_of_isPartOf {kind : TargetKind} (hpart : part.IsPartOf mixin)
    (h : audit settings kind mixin = []) : audit settings kind part = [] := by
  have hfield : ∀ f, fieldFaults kind part f = fieldFaults kind mixin f := by
    intro f
    unfold fieldFaults checkField
    rw [hpart.name]
  have hmethod : ∀ m, methodFaults settings kind part m = methodFaults settings kind mixin m := by
    intro m
    unfold methodFaults checkDeclaration checkStatic lacking
    rw [hpart.name]
  obtain ⟨ms, hms⟩ := exists_prepareMethods_of_audit h
  obtain ⟨ns, hns⟩ := exists_prepareMethods_of_isPartOf hpart hms
  have hinjectors : injectorFaults settings kind part = [] := by
    rw [injectorFaults, hns]
    rfl
  simp only [audit, List.append_eq_nil_iff, List.flatMap_eq_nil_iff] at h ⊢
  refine ⟨⟨?_, ?_⟩, hinjectors⟩
  · intro f hf
    rw [hfield]
    exact h.1.1 f (hpart.fields hf)
  · intro m hm
    rw [hmethod]
    exact h.1.2 m (hpart.methods hm)

/-! ## What comes to a failure -/

/-- A field fails on the name that is made for it in place of one that is taken. -/
theorem mergeField_eq_error {f : MixinField}
    (h : mergeField settings mixin s f = .error (fault, u)) :
    f.role = .unique ∧ s.target.hasFieldNamed f.name = true ∧
      MemberName.ofText (Allocator.uniqueFieldText mixin.sourceId settings.session f.name.text
        s.allocator.nextField) = .error fault ∧
      u.target = s.target := by
  unfold mergeField at h
  split at h
  · next hclash =>
    split at h
    · next hrole =>
      dsimp only at h
      split at h
      · next hname =>
        cases h
        exact ⟨hrole, hclash, hname, rfl⟩
      · cases h
    · cases h
  · cases h

/-- So does a method, unless it is a handler: those always get a name. -/
theorem mergeMethod_eq_error {m : MixinMethod}
    (h : mergeMethod settings mixin s m = .error (fault, u)) :
    m.role.isHandler = false ∧ (m.role = .unique ∨ (m.role = .plain ∧ m.flags.isSynthetic = true)) ∧
      s.target.hasMethod m.name m.type = true ∧
      (∃ keepsStart, MemberName.ofText (Allocator.uniqueMethodText mixin.sourceId settings.session
        m.name.text keepsStart s.allocator.nextMethod) = .error fault) ∧
      u.target = s.target := by
  have hsame := (untouched_of_mergeMethod_error h).target
  rcases mergeMethod_cases settings mixin s m with
    ⟨t, ht, _⟩ | ⟨hplaced, hhandler, hreplaces, hclash, keepsStart, heq⟩ | ⟨_, _, heq⟩
  · rw [ht] at h
    cases h
  · rw [heq] at h
    unfold mergeUnique at h
    dsimp only at h
    split at h
    · next hname =>
      cases h
      refine ⟨hhandler, ?_, hclash, ⟨keepsStart, hname⟩, hsame⟩
      cases hrole : m.role <;>
        simp_all [MixinMethod.replaces, MixinMethod.isPlaced, Role.isHandler, Role.injector?]
    · cases h
  · obtain ⟨t, ht⟩ := exists_mergeHandler mixin s m
    rw [heq, ht] at h
    cases h

/-- A field that fails leaves behind what merging everything before it does. -/
theorem mergeFields_eq_error
    (h : mergeFields settings mixin (mergeShadows mixin (addInterfaces mixin s))
      = .error (fault, u)) (hkind : s.target.kind = .cls) :
    ∃ before f after t, mixin.fields = before ++ f :: after ∧
      mergeAll settings (mixin.beforeField before after) [] s = .ok t ∧
      mergeField settings mixin t f = .error (fault, u) := by
  obtain ⟨before, f, after, t, hfields, hrole, hbefore, hf⟩ :=
    Runs.exists_of_foldlM_filter_eq_error h
  have hrole : f.role ≠ .shadow := by simpa using hrole
  refine ⟨before, f, after, t, hfields, ?_, hf⟩
  -- The part has the same shadows, and of the other fields those in front of this one.
  have hshadows : (mixin.beforeField before after).fields.filter (fun f => f.role = .shadow)
      = mixin.fields.filter (fun f => f.role = .shadow) := by
    simp [Mixin.beforeField, hfields, hrole]
  have hothers : (mixin.beforeField before after).fields.filter (fun f => f.role ≠ .shadow)
      = before.filter (fun f => f.role ≠ .shadow) := by
    simp [Mixin.beforeField]
  rw [mergeAll_nil_of_cls hkind, mergeFields, hothers, mergeShadows, hshadows]
  exact hbefore

/-- Merging all of a mixin fails at a field or at a method, and leaves behind what merging
everything before it does. -/
theorem mergeAll_eq_error {ms : List MixinMethod}
    (h : mergeAll settings mixin ms s = .error (fault, u)) :
    (∃ before f after t, mixin.fields = before ++ f :: after ∧
        mergeAll settings (mixin.beforeField before after) [] s = .ok t ∧
        mergeField settings mixin t f = .error (fault, u)) ∨
      ∃ before m after t, ms = before ++ m :: after ∧ mergeAll settings mixin before s = .ok t ∧
        mergeMethod settings mixin t m = .error (fault, u) := by
  rw [mergeAll_eq_bind] at h
  cases hstart : mergeAll settings mixin [] s with
  | error refusal =>
      rw [hstart] at h
      obtain rfl : refusal = (fault, u) := Except.error.inj h
      cases hkind : s.target.kind with
      | interface =>
          rw [mergeAll_nil_of_interface hkind] at hstart
          cases hstart
      | cls =>
          rw [mergeAll_nil_of_cls hkind] at hstart
          exact Or.inl (mergeFields_eq_error hstart hkind)
  | ok v =>
      rw [hstart] at h
      obtain ⟨before, m, after, t, hsplit, hbefore, hm⟩ := Runs.foldlM_eq_error_iff.mp h
      refine Or.inr ⟨before, m, after, t, hsplit, ?_, hm⟩
      rw [mergeAll_eq_bind, hstart]
      exact hbefore

/-! ## The whole merge -/

section Whole

variable {target : Target} {allocator : Allocator} {registry : Registry}

/-- Once the audit has let a mixin through, its methods are merged as they are prepared. -/
theorem prepareMethods_of_audit {kind : TargetKind} (h : audit settings kind mixin = []) :
    prepareMethods settings kind mixin
      = .ok (mixin.methods.map (preparedMethod settings kind)) := by
  obtain ⟨ms, hms⟩ := exists_prepareMethods_of_audit h
  rw [hms, prepareMethods_eq_map hms]

/-- Then applying it succeeds where the run of all stages does, and leaves what that
leaves. -/
theorem apply_of_mergeAll_eq_ok (haudit : audit settings target.kind mixin = [])
    (h : mergeAll settings mixin (mixin.methods.map (preparedMethod settings target.kind))
      { target, allocator, registry } = .ok s) :
    (apply settings target mixin allocator registry).outcome = .ok s.report ∧
      (apply settings target mixin allocator registry).target = s.target ∧
      (apply settings target mixin allocator registry).allocator = s.allocator := by
  unfold apply
  simp only [haudit, prepareMethods_of_audit haudit, h]
  exact ⟨rfl, rfl, rfl⟩

/-- And it fails where that run does. -/
theorem apply_of_mergeAll_eq_error (haudit : audit settings target.kind mixin = [])
    (h : mergeAll settings mixin (mixin.methods.map (preparedMethod settings target.kind))
      { target, allocator, registry } = .error (fault, u)) :
    apply settings target mixin allocator registry = u.failed fault := by
  unfold apply
  simp only [haudit, prepareMethods_of_audit haudit, h]

/-- Where a merge got stuck: the part of the mixin that comes before a member that
clashes, if the name that is made for the member where applying that part has led is no
member name. -/
inductive StuckAfter (settings : Settings) (mixin : Mixin) (reached : Applied)
    (fault : NameError) : Mixin → Prop
  | field {before after : List MixinField} {f : MixinField}
      (hfields : mixin.fields = before ++ f :: after) (hrole : f.role = .unique)
      (hclash : reached.target.hasFieldNamed f.name = true)
      (hname : MemberName.ofText (Allocator.uniqueFieldText mixin.sourceId settings.session
        f.name.text reached.allocator.nextField) = .error fault) :
      StuckAfter settings mixin reached fault (mixin.beforeField before after)
  | method {before after : List MixinMethod} {m : MixinMethod}
      (hmethods : mixin.methods = before ++ m :: after)
      (hrole : m.role = .unique ∨ (m.role = .plain ∧ m.flags.isSynthetic = true))
      (hclash : reached.target.hasMethod m.name m.type = true) (keepsStart : Bool)
      (hname : MemberName.ofText (Allocator.uniqueMethodText mixin.sourceId settings.session
        m.name.text keepsStart reached.allocator.nextMethod) = .error fault) :
      StuckAfter settings mixin reached fault (mixin.beforeMethod before)

/-- Nothing gets stuck unless the session id holds a reserved character. -/
theorem StuckAfter.not_isClean_session {reached : Applied}
    (h : StuckAfter settings mixin reached fault part) : ¬ Naming.IsClean settings.session := by
  intro hclean
  cases h with
  | @field _ _ f hfields hrole hclash hname =>
      obtain ⟨name, hok⟩ := MemberName.exists_ofText_eq_ok_iff.mpr
        (isMemberName_uniqueFieldText mixin.config f.name hclean reached.allocator.nextField)
      rw [Mixin.sourceId, hok] at hname
      cases hname
  | @method _ _ m hmethods hrole hclash keepsStart hname =>
      obtain ⟨name, hok⟩ := MemberName.exists_ofText_eq_ok_iff.mpr
        (isMemberName_uniqueMethodText mixin.config m.name hclean keepsStart
          reached.allocator.nextMethod)
      rw [Mixin.sourceId, hok] at hname
      cases hname

/-- A merge that fails is stuck after a part of the mixin, and has done to the target what
that part does. -/
theorem exists_stuckAfter (haudit : audit settings target.kind mixin = [])
    (h : mergeAll settings mixin (mixin.methods.map (preparedMethod settings target.kind))
      { target, allocator, registry } = .error (fault, u)) :
    ∃ part, StuckAfter settings mixin (apply settings target part allocator registry) fault part ∧
      (∃ report, (apply settings target part allocator registry).outcome = .ok report) ∧
      u.target = (apply settings target part allocator registry).target := by
  rcases mergeAll_eq_error h with
    ⟨before, f, after, t, hsplit, hbefore, hf⟩ | ⟨pre, n, post, t, hsplit, hpre, hn⟩
  · obtain ⟨hok, htarget, hallocator⟩ := apply_of_mergeAll_eq_ok
      (audit_of_isPartOf (Mixin.isPartOf_beforeField hsplit) haudit) hbefore
    obtain ⟨hrole, hclash, hname, hsame⟩ := mergeField_eq_error hf
    rw [← hallocator] at hname
    rw [← htarget] at hclash hsame
    exact ⟨_, .field hsplit hrole hclash hname, ⟨_, hok⟩, hsame⟩
  · obtain ⟨before, rest, hmethods, rfl, hrest⟩ := List.map_eq_append_iff.mp hsplit
    obtain ⟨m, after, rfl, hm, rfl⟩ := List.map_eq_cons_iff.mp hrest
    obtain ⟨hok, htarget, hallocator⟩ := apply_of_mergeAll_eq_ok
      (audit_of_isPartOf (Mixin.isPartOf_beforeMethod hmethods) haudit) hpre
    obtain ⟨hhandler, hrole, hclash, ⟨keepsStart, hname⟩, hsame⟩ := mergeMethod_eq_error hn
    -- Only handlers are prepared in another form than they were declared in.
    obtain rfl : m = n := by
      rcases preparedMethod_cases settings target.kind m with hself | ⟨hdeclared, flags, hflags⟩
      · exact hself.symm.trans hm
      · rw [← hm, hflags] at hhandler
        rw [hdeclared] at hhandler
        cases hhandler
    rw [← hallocator] at hname
    rw [← htarget] at hclash hsame
    exact ⟨_, .method hmethods hrole hclash keepsStart hname, ⟨_, hok⟩, hsame⟩

/-- Applying a mixin fails in two ways. Either the audit rejects it, and the target is
what it was. Or the merge got stuck, which takes a session id with a reserved character,
and the target is what applying the part before the member where it got stuck leaves,
without a failure. -/
theorem apply_outcome_eq_error {e : ApplyError}
    (h : (apply settings target mixin allocator registry).outcome = .error e) :
    (e = .rejected (audit settings target.kind mixin) ∧ audit settings target.kind mixin ≠ [] ∧
        (apply settings target mixin allocator registry).target = target) ∨
      ∃ fault part, e = .badName fault ∧ ¬ Naming.IsClean settings.session ∧
        StuckAfter settings mixin (apply settings target part allocator registry) fault part ∧
        (∃ report, (apply settings target part allocator registry).outcome = .ok report) ∧
        (apply settings target mixin allocator registry).target
          = (apply settings target part allocator registry).target := by
  by_cases haudit : audit settings target.kind mixin = []
  · cases hmerge : mergeAll settings mixin
        (mixin.methods.map (preparedMethod settings target.kind)) { target, allocator, registry } with
    | ok s =>
        rw [(apply_of_mergeAll_eq_ok haudit hmerge).1] at h
        cases h
    | error refusal =>
        obtain ⟨fault, u⟩ := refusal
        obtain ⟨part, hstuck, hok, hsame⟩ := exists_stuckAfter haudit hmerge
        rw [apply_of_mergeAll_eq_error haudit hmerge] at h ⊢
        obtain rfl : ApplyError.badName fault = e := Except.error.inj h
        exact Or.inr ⟨fault, part, rfl, hstuck.not_isClean_session, hstuck, hok, hsame⟩
  · rw [apply_of_audit_ne_nil haudit] at h ⊢
    cases h
    exact Or.inl ⟨rfl, haudit, rfl⟩

end Whole

/-! ## A target that is left half merged -/

/-- Settings with a session id that nobody checked. -/
def uncheckedSettings : Settings := { session := Text.ofString "a/b" }

/-- An interface that goes into the target before its fields do. -/
def jumper : ClassName := .literal "coolmod/Jumper"

/-- A mixin with that interface and a counter of jumps. -/
def jumperMixin : Mixin := { Player.mixin with interfaces := [jumper] }

/-- What applying the mixin to a player comes to, with such settings. -/
def halfMerged : Applied :=
  apply uncheckedSettings Player.target jumperMixin (.new Player.target.name) .empty

/-- The counter gets no name, and the interface stays. -/
theorem interfaces_halfMerged :
    halfMerged.outcome
        = .error (.badName (.reservedCharacter (Text.ofString "fda/b$cool_mod$jumps$0"))) ∧
      Player.target.interfaces = [] ∧ halfMerged.target.interfaces = [jumper] := by
  refine ⟨?_, rfl, ?_⟩
  · decide +kernel
  · decide +kernel

/-- A part of the mixin that can be applied leaves the target like that. -/
theorem exists_part_halfMerged :
    ∃ fault part, halfMerged.outcome = .error (.badName fault) ∧
      ¬ Naming.IsClean uncheckedSettings.session ∧
      StuckAfter uncheckedSettings jumperMixin
        (apply uncheckedSettings Player.target part (.new Player.target.name) .empty) fault part ∧
      (∃ report, (apply uncheckedSettings Player.target part (.new Player.target.name)
        .empty).outcome = .ok report) ∧
      halfMerged.target
        = (apply uncheckedSettings Player.target part (.new Player.target.name) .empty).target := by
  have hfault : ∃ fault, halfMerged.outcome = .error (.badName fault) := ⟨_, rfl⟩
  obtain ⟨fault, hfault⟩ := hfault
  rcases apply_outcome_eq_error hfault with ⟨hrejected, _, _⟩ | ⟨fault', part, hsame, hrest⟩
  · cases hrejected
  · exact ⟨fault', part, hsame ▸ hfault, hrest⟩

end Merge

end ClassGraft
