import ClassGraft.Proofs.Merge.Effect

/-!
# Applying a mixin twice

A mixin that is applied to a target once more clashes with what it left there the first
time. If it has unique members they are doubled, but any other mixin comes to the same
again, each kind of member for a reason of its own. Interfaces are there. A final flag that
was taken off stays off, and a shadow does not stand for a field that the mixin itself
brought, because its fields are told apart by name and type. New fields find their names
taken. Methods keep their names, or are handlers, whose names the allocator remembers; so
the same methods are put in the same order, and the last one with a name and type wins as
it did before.
-/

namespace ClassGraft

/-- The method does not get a new name where it clashes. -/
def MixinMethod.IsSteady (m : MixinMethod) : Prop :=
  m.role ≠ .unique ∧ (m.role = .plain → m.flags.isSynthetic = false)

/-- The fields of the mixin are told apart by name and type, and no member gets a new name
where it clashes. -/
structure Mixin.IsSteady (mixin : Mixin) : Prop where
  nodup : (mixin.fields.map fun f => (f.name, f.type)).Nodup
  fields : ∀ f ∈ mixin.fields, f.role ≠ .unique
  methods : ∀ m ∈ mixin.methods, m.IsSteady

/-! ## Names that stay -/

namespace Allocator

variable {a b : Allocator} {mixin : Mixin} {m : MixinMethod}

/-- The name under which a steady method is merged: for a handler, the one that it has got. -/
def finalName (a : Allocator) (mixin : Mixin) (m : MixinMethod) : MemberName :=
  if m.role.isHandler then (a.conformed? ⟨mixin.name, m.name, m.type⟩).getD m.name else m.name

/-- If the method is a handler, it has got a name. -/
def HasNamed (a : Allocator) (mixin : Mixin) (m : MixinMethod) : Prop :=
  m.role.isHandler = true → ∃ name, a.conformed? ⟨mixin.name, m.name, m.type⟩ = some name

theorem HasNamed.of_remembers (h : a.HasNamed mixin m) (hb : b.Remembers a) :
    b.HasNamed mixin m := by
  intro hhandler
  obtain ⟨name, hname⟩ := h hhandler
  exact ⟨name, hb _ _ hname⟩

/-- An allocator that remembers the handler gives the method the same name. -/
theorem HasNamed.finalName_eq (h : a.HasNamed mixin m) (hb : b.Remembers a) :
    b.finalName mixin m = a.finalName mixin m := by
  unfold finalName
  split
  · next hhandler =>
    obtain ⟨name, hname⟩ := h hhandler
    rw [hname, hb _ _ hname]
  · rfl

end Allocator

/-- The methods of a mixin that have a place, as they are put into a target of this kind. -/
def Mixin.placedMethods (mixin : Mixin) (a : Allocator) (kind : TargetKind)
    (ms : List MixinMethod) : List TargetMethod :=
  (ms.filter (·.isPlaced kind)).map fun m => m.placed mixin (a.finalName mixin m)

section

variable {mixin : Mixin} {a : Allocator} {kind : TargetKind} {m : MixinMethod}
  {ms : List MixinMethod}

theorem Mixin.placedMethods_cons_of_pos (h : m.isPlaced kind = true) :
    mixin.placedMethods a kind (m :: ms)
      = m.placed mixin (a.finalName mixin m) :: mixin.placedMethods a kind ms := by
  rw [placedMethods, List.filter_cons_of_pos h]
  rfl

theorem Mixin.placedMethods_cons_of_neg (h : m.isPlaced kind = false) :
    mixin.placedMethods a kind (m :: ms) = mixin.placedMethods a kind ms := by
  rw [placedMethods, List.filter_cons_of_neg (by simp [h])]
  rfl

end

namespace Merge

variable {settings : Settings} {mixin : Mixin} {s t : MergeState} {m : MixinMethod}
  {ms : List MixinMethod}

/-! ## Methods -/

/-- A steady method without a place leaves target and names alone. One with a place is put
under its final name, and uses up no new one if it has one. -/
theorem MethodStep.steady_cases (hm : m.IsSteady) (h : MethodStep settings mixin s m t) :
    (m.isPlaced s.target.kind = false ∧ t.target = s.target ∧ t.allocator = s.allocator) ∨
      (m.isPlaced s.target.kind = true ∧ t.allocator.HasNamed mixin m ∧
        t.target = s.target.putMethod (m.placed mixin (t.allocator.finalName mixin m)) ∧
        (s.allocator.HasNamed mixin m → t.allocator = s.allocator)) := by
  cases h with
  | shadow hrole => exact Or.inl ⟨by simp [MixinMethod.isPlaced, hrole], rfl, rfl⟩
  | initialiser hrole hname hkind =>
      exact Or.inl ⟨by simp [MixinMethod.isPlaced, hname], rfl, rfl⟩
  | skipped hrole hname hkind =>
      refine Or.inl ⟨?_, rfl, rfl⟩
      rcases hname with hname | hname <;> simp [MixinMethod.isPlaced, hname, hkind]
  | declared hplaced hrole hfree notices =>
      refine Or.inr ⟨hplaced, fun hhandler => absurd hhandler (by simp [hrole]), ?_, fun _ => rfl⟩
      simp [putMethod, MixinMethod.placed, Allocator.finalName, hrole]
  | unique hplaced hrole hreplaces =>
      -- Such a method would be unique, or plain and synthetic.
      obtain ⟨hunique, hplain⟩ := hm
      have hshadow : m.role ≠ .shadow := by
        rintro hshadow
        simp [MixinMethod.isPlaced, hshadow] at hplaced
      cases hcase : m.role <;> simp_all [MixinMethod.replaces, Role.isHandler, Role.injector?]
  | handler hplaced hrole name hname notices =>
      have hnamed := Allocator.conformed?_conform hname
      have hfinal : (s.allocator.conform s.registry mixin m).allocator.finalName mixin m
          = name := by
        simp [Allocator.finalName, hrole, hnamed]
      refine Or.inr ⟨hplaced, fun _ => ⟨name, hnamed⟩, ?_, ?_⟩
      · show s.target.putMethod (m.placed mixin name) = s.target.putMethod (m.placed mixin
          ((s.allocator.conform s.registry mixin m).allocator.finalName mixin m))
        rw [hfinal]
      · intro hearlier
        obtain ⟨earlier, hearlier⟩ := hearlier hrole
        exact (Allocator.conform_of_conformed? hrole hearlier).2

/-- Handlers that were named before methods are merged have the same names afterwards. -/
theorem remembers_of_mergeMethods (h : mergeMethods settings mixin ms s = .ok t) :
    t.allocator.Remembers s.allocator := by
  refine Runs.foldlM_induction (P := fun u => u.allocator.Remembers s.allocator) ?_ (.refl _) h
  intro u m _ v hu hstep
  have hkept := (Allocator.isKept_remembers s.allocator).mergeMethod hu settings mixin m
  rw [hstep] at hkept
  exact hkept

/-- Steady methods are put one after the other under their final names. -/
theorem target_of_mergeMethods (hms : ∀ m ∈ ms, m.IsSteady)
    (h : mergeMethods settings mixin ms s = .ok t) :
    t.target = s.target.putMethods (mixin.placedMethods t.allocator s.target.kind ms) ∧
      ∀ m ∈ ms, m.isPlaced s.target.kind = true → t.allocator.HasNamed mixin m := by
  induction ms generalizing s with
  | nil =>
      cases h
      exact ⟨rfl, by simp⟩
  | cons m ms ih =>
      obtain ⟨u, hfirst, hrest⟩ := Runs.foldlM_cons_eq_ok_iff.mp h
      obtain ⟨htarget, hnamed⟩ := ih (fun n hn => hms n (List.mem_cons_of_mem m hn)) hrest
      have hstep := (methodStep_of_mergeMethod hfirst).steady_cases (hms m List.mem_cons_self)
      have hremembers : t.allocator.Remembers u.allocator := remembers_of_mergeMethods hrest
      rcases hstep with ⟨hout, hsame, _⟩ | ⟨hplaced, hname, hput, _⟩
      · rw [hsame] at htarget hnamed
        refine ⟨?_, ?_⟩
        · rw [htarget, Mixin.placedMethods_cons_of_neg hout]
        · intro n hn hplaced
          rcases List.mem_cons.mp hn with rfl | hn
          · rw [hout] at hplaced
            cases hplaced
          · exact hnamed n hn hplaced
      · have hkind : u.target.kind = s.target.kind := by rw [hput, Target.kind_putMethod]
        rw [hkind] at htarget hnamed
        refine ⟨?_, ?_⟩
        · rw [htarget, hput, Mixin.placedMethods_cons_of_pos hplaced, hname.finalName_eq hremembers]
          rfl
        · intro n hn hplaced
          rcases List.mem_cons.mp hn with rfl | hn
          · exact hname.of_remembers hremembers
          · exact hnamed n hn hplaced

/-- They use up no names if they have theirs. -/
theorem allocator_of_mergeMethods (hms : ∀ m ∈ ms, m.IsSteady)
    (hnamed : ∀ m ∈ ms, m.isPlaced s.target.kind = true → s.allocator.HasNamed mixin m)
    (h : mergeMethods settings mixin ms s = .ok t) : t.allocator = s.allocator := by
  refine (Runs.foldlM_induction
    (P := fun u => u.target.kind = s.target.kind ∧ u.allocator = s.allocator) ?_ ⟨rfl, rfl⟩ h).2
  rintro u m hm v ⟨hkind, hallocator⟩ hstep
  rcases (methodStep_of_mergeMethod hstep).steady_cases (hms m hm) with
    ⟨_, htarget, hsame⟩ | ⟨hplaced, _, hput, hsame⟩
  · exact ⟨by rw [htarget, hkind], hsame.trans hallocator⟩
  · refine ⟨by rw [hput, Target.kind_putMethod, hkind], ?_⟩
    rw [hkind] at hplaced
    exact (hsame (hallocator ▸ hnamed m hm hplaced)).trans hallocator

/-- And none of them fails. -/
theorem exists_mergeMethods (hms : ∀ m ∈ ms, m.IsSteady) (s : MergeState) :
    ∃ t, mergeMethods settings mixin ms s = .ok t := by
  cases hmerge : mergeMethods settings mixin ms s with
  | ok t => exact ⟨t, rfl⟩
  | error failure =>
      obtain ⟨before, m, after, u, rfl, _, hm⟩ := Runs.foldlM_eq_error_iff.mp hmerge
      obtain ⟨_, hunique | ⟨hplain, hsynthetic⟩, _⟩ := mergeMethod_eq_error hm
      · exact absurd hunique (hms m (by simp)).1
      · rw [(hms m (by simp)).2 hplain] at hsynthetic
        cases hsynthetic

/-- So methods that were merged can be merged again, which changes nothing. -/
theorem mergeMethods_again {u v : MergeState} (hms : ∀ m ∈ ms, m.IsSteady)
    (h : mergeMethods settings mixin ms s = .ok u) (htarget : v.target = u.target)
    (hallocator : v.allocator = u.allocator) :
    ∃ t, mergeMethods settings mixin ms v = .ok t ∧
      t.target = u.target ∧ t.allocator = u.allocator := by
  obtain ⟨hput, hnamed⟩ := target_of_mergeMethods hms h
  have hkind : v.target.kind = s.target.kind := by
    obtain ⟨_, hframe⟩ := s.target.exists_putMethods_eq
      (mixin.placedMethods u.allocator s.target.kind ms)
    rw [htarget, hput, hframe]
  obtain ⟨t, ht⟩ : ∃ t, mergeMethods settings mixin ms v = .ok t := exists_mergeMethods hms v
  have hnamed' : ∀ m ∈ ms, m.isPlaced v.target.kind = true → v.allocator.HasNamed mixin m := by
    rw [hkind, hallocator]
    exact hnamed
  have hsame : t.allocator = u.allocator :=
    (allocator_of_mergeMethods hms hnamed' ht).trans hallocator
  refine ⟨t, ht, ?_, hsame⟩
  calc t.target
    _ = v.target.putMethods (mixin.placedMethods t.allocator v.target.kind ms) :=
        (target_of_mergeMethods hms ht).1
    _ = u.target.putMethods (mixin.placedMethods u.allocator s.target.kind ms) := by
        rw [hsame, hkind, htarget]
    _ = u.target := by rw [hput, Target.putMethods_putMethods]

/-- Methods are as steady as they were declared. -/
theorem isSteady_preparedMethod (settings : Settings) (kind : TargetKind) (h : m.IsSteady) :
    (preparedMethod settings kind m).IsSteady := by
  rcases preparedMethod_cases settings kind m with hsame | ⟨hhandler, flags, hflags⟩
  · rw [hsame]
    exact h
  · rw [hflags]
    refine ⟨h.1, fun hplain => ?_⟩
    have hplain : m.role = .plain := hplain
    simp [hplain, Role.isHandler, Role.injector?] at hhandler

/-! ## The stages before -/

/-- Interfaces that are there are not added. -/
theorem addInterfaces_eq_self
    (h : ∀ i ∈ mixin.interfaces, i = s.target.name ∨ i ∈ s.target.interfaces) :
    addInterfaces mixin s = s := by
  refine List.foldlRecOn (motive := fun t => t = s) mixin.interfaces addInterface rfl ?_
  rintro t rfl i hi
  exact if_pos (h i hi)

/-- Fields whose names are taken are left out. -/
theorem exists_foldlM_mergeField {fs : List MixinField}
    (h : ∀ f ∈ fs, f.role ≠ .unique ∧ s.target.hasFieldNamed f.name = true) :
    ∃ t, fs.foldlM (mergeField settings mixin) s = .ok t ∧
      t.target = s.target ∧ t.allocator = s.allocator := by
  induction fs generalizing s with
  | nil => exact ⟨s, rfl, rfl, rfl⟩
  | cons f fs ih =>
      obtain ⟨hrole, hclash⟩ := h f List.mem_cons_self
      obtain ⟨t, hrest, htarget, hallocator⟩ :=
        ih (s := (s.note [.fieldExists f.signature s.target.name]).skip f.signature)
          fun g hg => h g (List.mem_cons_of_mem f hg)
      refine ⟨t, Runs.foldlM_cons_eq_ok_iff.mpr ⟨_, ?_, hrest⟩, htarget, hallocator⟩
      rw [mergeField, if_pos hclash, if_neg hrole]

namespace Effect

variable {old new : Target} {report : Report} {pushed : List (MixinField × MemberName)}
  {left : List MixinField}

/-- A steady mixin pushes its fields under their own names. -/
theorem eq_name_of_mem_pushed (h : Effect mixin old new report pushed left)
    (hmixin : mixin.IsSteady) {p : MixinField × MemberName} (hp : p ∈ pushed) :
    p.2 = p.1.name :=
  (h.named p hp).resolve_right fun hunique =>
    hmixin.fields p.1 (Mixin.mem_newFields (h.mem_of_mem_pushed hp)).1 hunique.1

/-- Its new fields find their names taken. -/
theorem hasFieldNamed (h : Effect mixin old new report pushed left) (hmixin : mixin.IsSteady)
    {f : MixinField} (hf : f ∈ mixin.newFields old.kind) : new.hasFieldNamed f.name = true := by
  rcases List.mem_append.mp (h.perm.symm.subset hf) with hpushed | hleft
  · obtain ⟨p, hp, rfl⟩ := List.mem_map.mp hpushed
    have hmem : p.1.placed p.2 ∈ new.fields := by
      rw [h.fields]
      exact List.mem_append_right _ (List.mem_map_of_mem hp)
    have hname : (p.1.placed p.2).name = p.1.name := h.eq_name_of_mem_pushed hmixin hp
    exact List.any_eq_true.mpr ⟨_, hmem, by simp [hname]⟩
  · exact (h.taken f hleft).2

/-- A field that a writable shadow stands for is not final any more: it is an old one, since
the mixin brings no other field with the name and type of its shadow. -/
theorem unfinalised_eq_self (h : Effect mixin old new report pushed left)
    (hmixin : mixin.IsSteady) {i : Nat} {f : TargetField} (hf : new.fields[i]? = some f)
    {g : MixinField} (hg : g ∈ mixin.mutableShadows old.kind)
    (hi : new.fieldIndex? g.name g.type = some i) : f.unfinalised = f := by
  have hkey : new.fieldKeys[i]? = some (f.name, f.type) := by simp [Target.fieldKeys, hf]
  rw [Target.fieldIndex?_eq_idxOf?] at hi
  rw [h.fields, List.getElem?_append] at hf
  split at hf
  · next hlt =>
    -- An old field: the flag was taken off the first time.
    have hlt : i < old.fields.length := by
      have hlength := congrArg List.length
        (old.fieldKeys_unfinaliseFields (mixin.mutableShadows old.kind))
      simp only [Target.fieldKeys, List.length_map] at hlength
      rwa [hlength] at hlt
    have hprefix : old.fieldKeys <+: new.fieldKeys := h.fieldKeys_eq ▸ List.prefix_append _ _
    rw [idxOf?_of_isPrefix hprefix (by simpa [Target.fieldKeys] using hlt),
      ← Target.fieldIndex?_eq_idxOf?] at hi
    rw [Target.getElem?_unfinaliseFields (List.getElem?_eq_getElem hlt), if_pos ⟨g, hg, hi⟩] at hf
    cases hf
    rfl
  · -- A new field: it would have the name and type of the shadow.
    obtain ⟨p, hp, rfl⟩ := List.mem_map.mp (List.mem_of_getElem? hf)
    obtain ⟨hshadow, hrole⟩ := Mixin.mem_mutableShadows hg
    obtain ⟨hfield, hrole'⟩ := Mixin.mem_newFields (h.mem_of_mem_pushed hp)
    obtain ⟨hlt, hget, _⟩ := List.idxOf?_eq_some_iff.mp hi
    have hat : (g.name, g.type) = (p.2, p.1.type) := by
      rw [List.getElem?_eq_getElem hlt, hget] at hkey
      exact Option.some.inj hkey
    rw [h.eq_name_of_mem_pushed hmixin hp] at hat
    have hsame : g = p.1 := List.inj_on_of_nodup_map hmixin.nodup hshadow hfield hat
    exact absurd (hsame ▸ hrole) hrole'

/-- So the final flags are off already. -/
theorem unfinaliseFields_eq_self (h : Effect mixin old new report pushed left)
    (hmixin : mixin.IsSteady) : new.unfinaliseFields (mixin.mutableShadows old.kind) = new := by
  have hlength : (new.unfinaliseFields (mixin.mutableShadows old.kind)).fields.length
      = new.fields.length := by
    simpa [Target.fieldKeys] using congrArg List.length
      (new.fieldKeys_unfinaliseFields (mixin.mutableShadows old.kind))
  have hfields : (new.unfinaliseFields (mixin.mutableShadows old.kind)).fields = new.fields := by
    refine List.ext_getElem? fun i => ?_
    cases hf : new.fields[i]? with
    | none =>
        rw [List.getElem?_eq_none_iff] at hf ⊢
        exact hlength.trans_le hf
    | some f =>
        rw [Target.getElem?_unfinaliseFields hf]
        split
        · next hshadow =>
          obtain ⟨g, hg, hi⟩ := hshadow
          rw [h.unfinalised_eq_self hmixin hf hg hi]
        · rfl
  rw [Target.unfinaliseFields_eq, hfields]

end Effect

/-! ## The whole merge -/

section Whole

variable {target : Target} {allocator : Allocator} {registry : Registry} {report : Report}

/-- The stages before the methods come to nothing the second time. -/
theorem exists_mergeAll_nil_again {old new : Target} {pushed : List (MixinField × MemberName)}
    {left : List MixinField} (hmixin : mixin.IsSteady)
    (heffect : Effect mixin old new report pushed left) (settings : Settings)
    (allocator : Allocator) (registry : Registry) :
    ∃ t, mergeAll settings mixin [] { target := new, allocator, registry } = .ok t ∧
      t.target = new ∧ t.allocator = allocator := by
  have hinterfaces : addInterfaces mixin { target := new, allocator, registry }
      = { target := new, allocator, registry } := addInterfaces_eq_self heffect.hasAll
  obtain ⟨notices, hshadows⟩ := exists_mergeShadows mixin { target := new, allocator, registry }
  have hsame := heffect.unfinaliseFields_eq_self hmixin
  simp only [heffect.kind, hsame] at hshadows
  cases hkind : new.kind with
  | interface =>
      rw [mergeAll_nil_of_interface hkind, hinterfaces, hshadows]
      exact ⟨_, rfl, rfl, rfl⟩
  | cls =>
      rw [mergeAll_nil_of_cls hkind, hinterfaces, hshadows]
      refine exists_foldlM_mergeField fun f hf => ?_
      have hf : f ∈ mixin.newFields old.kind := by
        rw [← heffect.kind, hkind]
        exact hf
      exact ⟨hmixin.fields f (Mixin.mem_newFields hf).1, heffect.hasFieldNamed hmixin hf⟩

/-- A steady mixin that was applied can be applied once more, at whatever registry, and then
leaves the target and the allocator as they are. -/
theorem apply_apply (hmixin : mixin.IsSteady)
    (h : (apply settings target mixin allocator registry).outcome = .ok report)
    (later : Registry) :
    let after := apply settings target mixin allocator registry
    let again := apply settings after.target mixin after.allocator later
    (∃ report', again.outcome = .ok report') ∧ again.target = after.target ∧
      again.allocator = after.allocator := by
  intro after again
  have hms : ∀ m ∈ mixin.methods.map (preparedMethod settings target.kind), m.IsSteady := by
    intro m hm
    obtain ⟨d, hd, rfl⟩ := List.mem_map.mp hm
    exact isSteady_preparedMethod settings target.kind (hmixin.methods d hd)
  obtain ⟨pushed, left, heffect⟩ := exists_effect_of_apply h
  have hkind : after.target.kind = target.kind := heffect.kind
  obtain ⟨s, hmerge, -, htarget, hallocator⟩ := exists_mergeAll_of_outcome h
  rw [mergeAll_eq_bind] at hmerge
  obtain ⟨u, -, hmethods⟩ := Runs.bind_eq_ok_iff.mp hmerge
  obtain ⟨v, hbefore, hvtarget, hvallocator⟩ :=
    exists_mergeAll_nil_again hmixin heffect settings after.allocator later
  obtain ⟨t, hagain, hsame, hnames⟩ :=
    mergeMethods_again hms hmethods (hvtarget.trans htarget) (hvallocator.trans hallocator)
  have hrun : mergeAll settings mixin
      (mixin.methods.map (preparedMethod settings after.target.kind))
      { target := after.target, allocator := after.allocator, registry := later } = .ok t := by
    rw [hkind, mergeAll_eq_bind, hbefore]
    exact hagain
  have haudit : audit settings after.target.kind mixin = [] := by
    rw [hkind]
    exact audit_of_outcome h
  obtain ⟨houtcome, htarget', hallocator'⟩ := apply_of_mergeAll_eq_ok haudit hrun
  exact ⟨⟨_, houtcome⟩, (htarget'.trans hsame).trans htarget.symm,
    (hallocator'.trans hnames).trans hallocator.symm⟩

end Whole

end Merge

/-! ## A lamp -/

namespace Lamp

/-- A class with a level that is set once, and a method. -/
def target : Target where
  name := .literal "a/Lamp"
  kind := .cls
  fields :=
    [{ name := .literal "level"
       type := .primitive .int
       flags := { isPrivate := true, isFinal := true } }]
  methods :=
    [{ name := .literal "dim"
       type := { parameters := [], result := none }
       flags := { isPublic := true } }]

/-- A mixin that writes the level, overwrites the method, brings one method twice, and has a
handler. -/
def mixin : Mixin where
  name := .literal "mod/mixin/LampMixin"
  config := { name := "mod", source := some (Text.ofString "mymod") }
  interfaces := [.literal "a/Switch"]
  fields :=
    [{ name := .literal "level"
       type := .primitive .int
       flags := { isPrivate := true }
       role := .shadow
       isMutable := true },
     { name := .literal "power"
       type := .primitive .int
       flags := { isPrivate := true, isFinal := true }
       role := .plain }]
  methods :=
    [{ name := .literal "dim"
       type := { parameters := [], result := none }
       flags := { isPublic := true }
       role := .overwrite },
     { name := .literal "glow"
       type := { parameters := [], result := none }
       flags := { isPublic := true }
       role := .plain },
     { name := .literal "glow"
       type := { parameters := [], result := none }
       flags := { isPrivate := true }
       role := .plain },
     { name := .literal "onDim"
       type := { parameters := [], result := none }
       flags := { isPrivate := true }
       role := .handler .inject }]

/-- What applying the mixin to the lamp comes to. -/
def applied : Applied :=
  Merge.apply (Merge.sessionAt .java8) target mixin (.new target.name) .empty

/-- The mixin changes the lamp once, and not again. -/
theorem apply_apply_lamp :
    mixin.IsSteady ∧ (∃ report, applied.outcome = .ok report) ∧ applied.target ≠ target ∧
      (Merge.apply (Merge.sessionAt .java8) applied.target mixin applied.allocator
        applied.registry).target = applied.target := by
  have hmixin : mixin.IsSteady :=
    ⟨by decide, by decide, by simp [mixin, MixinMethod.IsSteady]⟩
  have haudit : Merge.audit (Merge.sessionAt .java8) target.kind mixin = [] := by decide
  obtain ⟨report, hreport⟩ := Merge.exists_report_of_audit_eq_nil
    (Merge.isBuilt_sessionAt .java8) haudit (.new target.name) .empty
  have hagain := Merge.apply_apply hmixin hreport applied.registry
  exact ⟨hmixin, ⟨report, hreport⟩, by decide +kernel, hagain.2.1⟩

end Lamp

end ClassGraft
