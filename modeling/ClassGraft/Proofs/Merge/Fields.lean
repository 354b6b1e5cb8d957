import Mathlib.Data.List.Nodup
import ClassGraft.Proofs.Merge.Reapplication

/-!
# Which fields are told apart

A field is told apart by its name and type. One that is merged under the name that it
was written with is looked up first, so it never doubles another one. A name that is
generated for a unique field is not looked up, and if the target has a field with that
name and type, there are two of them afterwards.

A run of events is taken down as what it does to the list of names and types and to the
number of the next unique field. There the exact condition is plain, and so is that all
is well as long as no number comes twice and nothing else is called like a generated
name.
-/

namespace ClassGraft

/-- Name and type of a field. -/
abbrev FieldKey := MemberName × FieldType ClassName

namespace Target

/-- Name and type of each field. -/
def fieldKeys (t : Target) : List FieldKey := t.fields.map fun f => (f.name, f.type)

@[simp] theorem fieldKeys_pushField (t : Target) (f : TargetField) :
    (t.pushField f).fieldKeys = t.fieldKeys ++ [(f.name, f.type)] := by
  simp [fieldKeys, pushField]

@[simp] theorem fieldKeys_pushInterface (t : Target) (i : ClassName) :
    (t.pushInterface i).fieldKeys = t.fieldKeys := rfl

@[simp] theorem fieldKeys_putMethod (t : Target) (m : TargetMethod) :
    (t.putMethod m).fieldKeys = t.fieldKeys := by
  unfold putMethod
  split <;> rfl

@[simp] theorem fieldKeys_unfinaliseField (t : Target) (name : MemberName)
    (type : FieldType ClassName) : (t.unfinaliseField name type).fieldKeys = t.fieldKeys := by
  refine List.ext_getElem? fun i => ?_
  simp only [fieldKeys, unfinaliseField, List.getElem?_map, List.getElem?_modify]
  cases t.fields[i]? with
  | none => rfl
  | some f =>
      show some _ = some _
      split <;> rfl

/-- A name that no field has is free for every type. -/
theorem not_mem_fieldKeys {t : Target} {name : MemberName} (h : t.hasFieldNamed name = false)
    (type : FieldType ClassName) : (name, type) ∉ t.fieldKeys := by
  intro hmem
  obtain ⟨f, hf, heq⟩ := List.mem_map.mp hmem
  cases heq
  simp only [hasFieldNamed, List.any_eq_false, beq_iff_eq] at h
  exact h f hf rfl

end Target

/-! ## Numbers in names -/

/-- Unique fields with different numbers get different names, whatever else goes into
them. -/
theorem Allocator.uniqueFieldText_number {source source' : Option Text}
    {session session' name name' : Text} {m n : UInt32}
    (h : uniqueFieldText source session name m = uniqueFieldText source' session' name' n) :
    m = n :=
  Naming.EndsIn.unique ⟨_, rfl⟩ ⟨_, h⟩

/-! ## Ledgers -/

/-- What there is to know about fields: their names and types, and the number of the next
unique one. -/
structure FieldLedger where
  keys : List FieldKey
  next : UInt32

/-- The ledger of a merge. -/
def MergeState.fieldLedger (s : MergeState) : FieldLedger :=
  ⟨s.target.fieldKeys, s.allocator.nextField⟩

namespace Site

/-- The ledger of a site. -/
def fieldLedger (site : Site) : FieldLedger :=
  ⟨site.target.fieldKeys, site.allocator.nextField⟩

namespace Event

/-- Does the event merge a field that was written with this name and type? -/
def Declares : Event → FieldKey → Prop
  | .apply _ mixin, key => ∃ f ∈ mixin.fields, f.role ≠ .shadow ∧ key = (f.name, f.type)
  | _, _ => False

/-- Can the event add a unique field of this type under this name, made with this number? -/
def Generates : Event → UInt32 → FieldKey → Prop
  | .apply settings mixin, number, key =>
    ∃ f ∈ mixin.fields, f.role = .unique ∧ key.2 = f.type ∧
      key.1.text
        = Allocator.uniqueFieldText mixin.sourceId settings.session f.name.text number
  | _, _, _ => False

/-- The unique fields that the event merges. Each uses up one number at most. -/
def uniqueFields : Event → List MixinField
  | .apply _ mixin => mixin.fields.filter fun f => f.role = .unique
  | _ => []

/-- A name is made with one number. -/
theorem Generates.number_eq {d e : Event} {m n : UInt32} {key : FieldKey}
    (hd : d.Generates m key) (he : e.Generates n key) : m = n := by
  cases d with
  | apply settings mixin =>
      cases e with
      | apply settings' mixin' =>
          obtain ⟨f, _, _, _, hf⟩ := hd
          obtain ⟨g, _, _, _, hg⟩ := he
          exact Allocator.uniqueFieldText_number (hf.symm.trans hg)
      | reset => exact he.elim
      | serve => exact he.elim
  | reset => exact hd.elim
  | serve => exact hd.elim

/-- Made names hold a dollar sign. -/
theorem Generates.dollar_mem {e : Event} {n : UInt32} {key : FieldKey} (h : e.Generates n key) :
    '$' ∈ key.1.text := by
  cases e with
  | apply settings mixin =>
      obtain ⟨f, _, _, _, hname⟩ := h
      rw [hname, Allocator.uniqueFieldText]
      simp
  | reset => exact h.elim
  | serve => exact h.elim

end Event

/-- Behind the old fields, no field with a made name has the name and type of a field in
front of it. -/
def MadeNamesAreNew (events : List Event) (old keys : List FieldKey) : Prop :=
  ∀ before key after, keys = before ++ key :: after → old.length ≤ before.length →
    (∃ e ∈ events, ∃ n, e.Generates n key) → key ∉ before

/-- So it was before the last field was added. -/
theorem MadeNamesAreNew.of_snoc {events : List Event} {old keys : List FieldKey} {key : FieldKey}
    (h : MadeNamesAreNew events old (keys ++ [key])) : MadeNamesAreNew events old keys := by
  intro before k after hsplit
  refine h before k (after ++ [key]) ?_
  rw [hsplit, List.append_assoc, List.cons_append]

/-- The field was there before, or one of the events merges it under this name, with which
it was written. -/
def Written (events : List Event) (old : List FieldKey) (key : FieldKey) : Prop :=
  key ∈ old ∨ ∃ e ∈ events, e.Declares key

/-- The field is a written one, or has a name that was made with a number before the next one. -/
def Accounted (events : List Event) (old : List FieldKey) (next : UInt32) (key : FieldKey) :
    Prop :=
  Written events old key ∨ ∃ e ∈ events, ∃ n < next, e.Generates n key

theorem Accounted.of_lt {events : List Event} {old : List FieldKey} {next next' : UInt32}
    {key : FieldKey} (h : Accounted events old next key) (hlt : next < next') :
    Accounted events old next' key := by
  rcases h with hwritten | ⟨e, he, n, hn, hmade⟩
  · exact Or.inl hwritten
  · exact Or.inr ⟨e, he, n, UInt32.lt_trans hn hlt, hmade⟩

/-- What runs of these events can do to a ledger while at most so many numbers are used. -/
inductive FieldRun (events : List Event) (start : FieldLedger) : Nat → FieldLedger → Prop
  | refl : FieldRun events start 0 start
  /-- A field is added under the name that it was written with. -/
  | declared {used : Nat} {l : FieldLedger} {e : Event} {key : FieldKey}
      (h : FieldRun events start used l) (he : e ∈ events) (hkey : e.Declares key)
      (hfree : key ∉ l.keys) : FieldRun events start used ⟨l.keys ++ [key], l.next⟩
  /-- A field is added under a name that was made for it. -/
  | generated {used : Nat} {l : FieldLedger} {e : Event} {key : FieldKey}
      (h : FieldRun events start used l) (he : e ∈ events) (hkey : e.Generates l.next key) :
      FieldRun events start (used + 1) ⟨l.keys ++ [key], l.next + 1⟩
  /-- A number is used up for a name that turns out to be none. -/
  | wasted {used : Nat} {l : FieldLedger} (h : FieldRun events start used l) :
      FieldRun events start (used + 1) ⟨l.keys, l.next + 1⟩
  /-- The numbers start over. -/
  | reset {used : Nat} {l : FieldLedger} (h : FieldRun events start used l)
      (he : Event.reset ∈ events) : FieldRun events start used ⟨l.keys, 0⟩
  /-- A number was not needed. -/
  | spared {used : Nat} {l : FieldLedger} (h : FieldRun events start used l) :
      FieldRun events start (used + 1) l

namespace FieldRun

variable {events : List Event} {start l : FieldLedger} {used : Nat}

theorem mono (h : FieldRun events start used l) {bound : Nat} (hle : used ≤ bound) :
    FieldRun events start bound l := by
  induction hle with
  | refl => exact h
  | step _ ih => exact ih.spared

/-- Fields are only added, at the end. -/
theorem keys_isPrefix (h : FieldRun events start used l) : start.keys <+: l.keys := by
  induction h with
  | refl => exact List.prefix_rfl
  | declared _ _ _ _ ih => exact ih.trans (List.prefix_append _ _)
  | generated _ _ _ ih => exact ih.trans (List.prefix_append _ _)
  | wasted _ ih => exact ih
  | reset _ _ ih => exact ih
  | spared _ ih => exact ih

/-- If no field is doubled at the start, none is doubled later as long as fields with made
names are new. -/
theorem nodup_keys (h : FieldRun events start used l) (hstart : start.keys.Nodup)
    (hnew : MadeNamesAreNew events start.keys l.keys) : l.keys.Nodup := by
  induction h with
  | refl => exact hstart
  | declared _ _ _ hfree ih =>
      rw [← List.concat_eq_append]
      exact List.Nodup.concat hfree (ih hnew.of_snoc)
  | generated h he hkey ih =>
      have hfree := hnew _ _ [] rfl h.keys_isPrefix.length_le ⟨_, he, _, hkey⟩
      rw [← List.concat_eq_append]
      exact List.Nodup.concat hfree (ih hnew.of_snoc)
  | wasted _ ih => exact ih hnew
  | reset _ _ ih => exact ih hnew
  | spared _ ih => exact ih hnew

/-- The next number is at most the first one and as many more as were used. -/
theorem next_le (h : FieldRun events start used l) (hreset : Event.reset ∉ events) :
    l.next.toNat ≤ start.next.toNat + used := by
  have hsucc : ∀ n : UInt32, (n + 1).toNat ≤ n.toNat + 1 := by
    intro n
    rw [UInt32.toNat_add]
    exact Nat.mod_le _ _
  induction h with
  | refl => omega
  | declared _ _ _ _ ih => exact ih
  | generated _ _ _ ih => exact (hsucc _).trans (Nat.succ_le_succ ih)
  | wasted _ ih => exact (hsucc _).trans (Nat.succ_le_succ ih)
  | reset _ he => exact absurd he hreset
  | spared _ ih => exact Nat.le_succ_of_le ih

/-- While numbers neither start over nor wrap round, they go up. -/
theorem next_lt (h : FieldRun events start used l) (hreset : Event.reset ∉ events)
    (hbound : start.next.toNat + (used + 1) < UInt32.size) : l.next < l.next + 1 := by
  have hnext := h.next_le hreset
  have hfits : l.next.toNat + 1 < UInt32.size := by omega
  rw [UInt32.lt_iff_toNat_lt, UInt32.toNat_add]
  show l.next.toNat < (l.next.toNat + 1) % UInt32.size
  rw [Nat.mod_eq_of_lt hfits]
  exact Nat.lt_succ_self _

/-- Then every field is accounted for: made names were made with earlier numbers. -/
theorem accounted (h : FieldRun events start used l) (hreset : Event.reset ∉ events)
    (hbound : start.next.toNat + used < UInt32.size) {key : FieldKey} (hkey : key ∈ l.keys) :
    Accounted events start.keys l.next key := by
  induction h with
  | refl => exact Or.inl (Or.inl hkey)
  | declared _ he hdeclared _ ih =>
      rcases List.mem_append.mp hkey with hold | hlast
      · exact ih hbound hold
      · obtain rfl := List.mem_singleton.mp hlast
        exact Or.inl (Or.inr ⟨_, he, hdeclared⟩)
  | generated h he hmade ih =>
      have hlt := h.next_lt hreset hbound
      rcases List.mem_append.mp hkey with hold | hlast
      · exact (ih (by omega) hold).of_lt hlt
      · obtain rfl := List.mem_singleton.mp hlast
        exact Or.inr ⟨_, he, _, hlt, hmade⟩
  | wasted h ih => exact (ih (by omega) hkey).of_lt (h.next_lt hreset hbound)
  | reset _ he => exact absurd he hreset
  | spared _ ih => exact ih (by omega) hkey

/-- Then no field is doubled if none is called like a name that can be made. -/
theorem nodup_keys_of_numbers (h : FieldRun events start used l) (hstart : start.keys.Nodup)
    (hreset : Event.reset ∉ events) (hbound : start.next.toNat + used < UInt32.size)
    (hwritten : ∀ key, Written events start.keys key → ∀ e ∈ events, ∀ n, ¬ e.Generates n key) :
    l.keys.Nodup := by
  induction h with
  | refl => exact hstart
  | declared _ _ _ hfree ih =>
      rw [← List.concat_eq_append]
      exact List.Nodup.concat hfree (ih hbound)
  | @generated used l e key h he hmade ih =>
      have hfree : key ∉ l.keys := by
        intro hkey
        rcases h.accounted hreset (by omega) hkey with hold | ⟨d, _, n, hn, hmade'⟩
        · exact hwritten key hold e he l.next hmade
        · exact UInt32.lt_irrefl n (hmade.number_eq hmade' ▸ hn)
      rw [← List.concat_eq_append]
      exact List.Nodup.concat hfree (ih (by omega))
  | wasted _ ih => exact ih (by omega)
  | reset _ he => exact absurd he hreset
  | spared _ ih => exact ih (by omega)

end FieldRun

end Site

/-! ## Stages that leave the ledger alone -/

@[simp] theorem Allocator.nextField_conform (a : Allocator) (r : Registry) (mixin : Mixin)
    (handler : MixinMethod) : (a.conform r mixin handler).allocator.nextField = a.nextField :=
  (a.counters_conform r mixin handler).2

namespace Merge

variable {settings : Settings} {mixin : Mixin} {s : MergeState}

/-- Interfaces and shadows are merged without touching the ledger. -/
theorem fieldLedger_before_fields (mixin : Mixin) (s : MergeState) :
    (mergeShadows mixin (addInterfaces mixin s)).fieldLedger = s.fieldLedger := by
  have hinterface : ∀ (s : MergeState) (i : ClassName),
      (addInterface s i).fieldLedger = s.fieldLedger := by
    intro s i
    unfold addInterface
    split <;> rfl
  have hshadow : ∀ (s : MergeState) (f : MixinField),
      (mergeShadow mixin s f).fieldLedger = s.fieldLedger := by
    intro s f
    unfold mergeShadow
    split
    · rfl
    · split
      · simp [MergeState.fieldLedger]
      · rfl
  have hinterfaces : (addInterfaces mixin s).fieldLedger = s.fieldLedger :=
    List.foldlRecOn (motive := fun t => t.fieldLedger = s.fieldLedger) mixin.interfaces
      addInterface rfl fun t ht i _ => (hinterface t i).trans ht
  exact List.foldlRecOn (motive := fun t => t.fieldLedger = s.fieldLedger) _ (mergeShadow mixin)
    hinterfaces fun t ht f _ => (hshadow t f).trans ht

/-- A field that is pushed is added to the ledger. -/
theorem fieldLedger_pushField (s : MergeState) (f : MixinField) (name : MemberName) :
    (pushField s f name).fieldLedger
      = ⟨s.fieldLedger.keys ++ [(name, f.type)], s.fieldLedger.next⟩ := by
  simp [MergeState.fieldLedger, pushField]

/-- A method that is put brings no field. -/
theorem fieldLedger_putMethod (mixin : Mixin) (s : MergeState) (m : MixinMethod)
    (name : MemberName) : (putMethod mixin s m name).fieldLedger = s.fieldLedger := by
  simp [MergeState.fieldLedger, putMethod]

theorem fieldLedger_putRenamed (mixin : Mixin) (s : MergeState) (m : MixinMethod)
    (name : MemberName) : (putRenamed mixin s m name).fieldLedger = s.fieldLedger :=
  fieldLedger_putMethod mixin (s.rename m.name name) m name

/-- Nor does naming a handler use up the number of one. -/
theorem fieldLedger_conform (mixin : Mixin) (s : MergeState) (m : MixinMethod)
    (notices : List Notice) :
    MergeState.fieldLedger { s with
        notices := notices
        allocator := (s.allocator.conform s.registry mixin m).allocator
        registry := (s.allocator.conform s.registry mixin m).registry } = s.fieldLedger := by
  simp [MergeState.fieldLedger]

/-- So a method leaves the ledger alone, whether it is merged or fails. -/
theorem fieldLedger_mergeMethod (settings : Settings) (mixin : Mixin) (s : MergeState)
    (m : MixinMethod) :
    (Runs.final (mergeMethod settings mixin s m)).fieldLedger = s.fieldLedger := by
  rcases mergeMethod_cases settings mixin s m with
    ⟨t, ht, hstep⟩ | ⟨_, _, _, _, keepsStart, heq⟩ | ⟨_, _, heq⟩
  · rw [ht]
    show t.fieldLedger = s.fieldLedger
    cases hstep with
    | shadow => rfl
    | initialiser => rfl
    | skipped => rfl
    | declared => exact fieldLedger_putMethod mixin _ m _
    | unique => exact fieldLedger_putRenamed mixin _ m _
    | handler => exact (fieldLedger_putRenamed mixin _ m _).trans (fieldLedger_conform mixin s m _)
  · rw [heq]
    unfold mergeUnique
    dsimp only
    split
    · rfl
    · exact fieldLedger_putRenamed mixin _ m _
  · rw [heq]
    unfold mergeHandler
    dsimp only
    split
    · exact fieldLedger_conform mixin s m _
    · exact (fieldLedger_putRenamed mixin _ m _).trans (fieldLedger_conform mixin s m _)
    · exact (fieldLedger_putMethod mixin _ m _).trans (fieldLedger_conform mixin s m _)

theorem fieldLedger_mergeMethods (settings : Settings) (mixin : Mixin) (ms : List MixinMethod)
    (s : MergeState) :
    (Runs.final (mergeMethods settings mixin ms s)).fieldLedger = s.fieldLedger :=
  Runs.foldlM_final_induction (P := fun t : MergeState => t.fieldLedger = s.fieldLedger)
    (fun t m ht => (fieldLedger_mergeMethod settings mixin t m).trans ht) rfl

end Merge

/-! ## Merging as a run -/

namespace Site.FieldRun

open Merge

variable {events : List Event} {start : FieldLedger} {used : Nat} {settings : Settings}
  {mixin : Mixin} {s : MergeState}

/-- Merging a field goes on with the run. -/
theorem mergeField (h : FieldRun events start used s.fieldLedger)
    (he : .apply settings mixin ∈ events) {f : MixinField} (hf : f ∈ mixin.fields)
    (hrole : f.role ≠ .shadow) :
    FieldRun events start (used + if f.role = .unique then 1 else 0)
      (Runs.final (Merge.mergeField settings mixin s f)).fieldLedger := by
  by_cases hclash : s.target.hasFieldNamed f.name = true
  · by_cases hunique : f.role = .unique
    · rw [Merge.mergeField, if_pos hclash, if_pos hunique, if_pos hunique]
      dsimp only
      split
      · exact h.wasted
      · next name hname =>
        have hmade : (Event.apply settings mixin).Generates s.allocator.nextField (name, f.type) :=
          ⟨f, hf, hunique, rfl, (MemberName.ofText_eq_ok_iff.mp hname).symm⟩
        exact (fieldLedger_pushField _ f name).symm ▸ h.generated he hmade
    · rw [Merge.mergeField, if_pos hclash, if_neg hunique, if_neg hunique]
      exact h
  · have hfree := Target.not_mem_fieldKeys (by simpa using hclash) f.type
    have hdeclared : (Event.apply settings mixin).Declares (f.name, f.type) := ⟨f, hf, hrole, rfl⟩
    have hpushed := h.declared he hdeclared hfree
    rw [Merge.mergeField, if_neg hclash]
    exact ((fieldLedger_pushField s f f.name).symm ▸ hpushed).mono (Nat.le_add_right _ _)

/-- So do the fields of a mixin, up to one that fails. -/
theorem foldlM_mergeField {fs : List MixinField} (h : FieldRun events start used s.fieldLedger)
    (he : .apply settings mixin ∈ events)
    (hfs : ∀ f ∈ fs, f ∈ mixin.fields ∧ f.role ≠ .shadow) :
    FieldRun events start (used + (fs.filter fun f => f.role = .unique).length)
      (Runs.final (fs.foldlM (Merge.mergeField settings mixin) s)).fieldLedger := by
  induction fs generalizing s used with
  | nil => exact h
  | cons f fs ih =>
      have hfirst := h.mergeField he (hfs f (by simp)).1 (hfs f (by simp)).2
      have hcount : ((f :: fs).filter fun f => f.role = .unique).length
          = (if f.role = .unique then 1 else 0) + (fs.filter fun f => f.role = .unique).length := by
        by_cases hunique : f.role = .unique
        · simp [hunique, Nat.add_comm]
        · simp [hunique]
      rw [List.foldlM_cons, hcount, ← Nat.add_assoc]
      cases hmerge : Merge.mergeField settings mixin s f with
      | error refusal =>
          rw [hmerge] at hfirst
          exact hfirst.mono (Nat.le_add_right _ _)
      | ok t =>
          rw [hmerge] at hfirst
          exact ih hfirst fun g hg => hfs g (List.mem_cons_of_mem _ hg)

/-- Shadows, which are left out, use up no numbers. -/
theorem mergeFields (h : FieldRun events start used s.fieldLedger)
    (he : .apply settings mixin ∈ events) :
    FieldRun events start (used + (Event.apply settings mixin).uniqueFields.length)
      (Runs.final (Merge.mergeFields settings mixin s)).fieldLedger := by
  refine (h.foldlM_mergeField he (by simp)).mono (Nat.add_le_add_left ?_ used)
  exact (List.filter_sublist.filter _).length_le

/-- So a whole merge goes on with the run. -/
theorem mergeAll (h : FieldRun events start used s.fieldLedger)
    (he : .apply settings mixin ∈ events) (ms : List MixinMethod) :
    FieldRun events start (used + (Event.apply settings mixin).uniqueFields.length)
      (Runs.final (Merge.mergeAll settings mixin ms s)).fieldLedger := by
  rw [← fieldLedger_before_fields mixin s] at h
  have hstart : FieldRun events start (used + (Event.apply settings mixin).uniqueFields.length)
      (Runs.final (Merge.mergeAll settings mixin [] s)).fieldLedger := by
    cases hkind : s.target.kind with
    | interface =>
        rw [mergeAll_nil_of_interface hkind]
        exact h.mono (Nat.le_add_right _ _)
    | cls =>
        rw [mergeAll_nil_of_cls hkind]
        exact h.mergeFields he
  rw [mergeAll_eq_bind]
  cases hmerge : Merge.mergeAll settings mixin [] s with
  | error refusal =>
      rw [hmerge] at hstart
      exact hstart
  | ok t =>
      rw [hmerge] at hstart
      show FieldRun _ _ _ (Runs.final (mergeMethods settings mixin ms t)).fieldLedger
      rw [fieldLedger_mergeMethods]
      exact hstart

/-- So does every event. -/
theorem step {site : Site} (h : FieldRun events start used site.fieldLedger) {e : Event}
    (he : e ∈ events) :
    FieldRun events start (used + e.uniqueFields.length) (site.step e).fieldLedger := by
  cases e with
  | apply settings mixin =>
      rcases apply_cases settings site.target mixin site.allocator site.registry with
        ⟨errors, hrefused⟩ | ⟨ms, run, _, hmerge, htarget, hallocator, _⟩
      · have hsame : (site.step (.apply settings mixin)).fieldLedger = site.fieldLedger := by
          simp only [Site.step, applied, fieldLedger, hrefused]
        rw [hsame]
        exact h.mono (Nat.le_add_right _ _)
      · have hall := FieldRun.mergeAll (s := ⟨site.target, site.allocator, site.registry, {}, []⟩)
          h he ms
        rw [hmerge] at hall
        have hend : (site.step (.apply settings mixin)).fieldLedger
            = (Runs.final run).fieldLedger := by
          simp only [Site.step, applied, fieldLedger, MergeState.fieldLedger, htarget, hallocator]
        rw [hend]
        exact hall
  | reset => exact h.reset he
  | serve request => exact h

/-- So does a run of events. -/
theorem run {site : Site} (h : FieldRun events start used site.fieldLedger) {later : List Event}
    (hlater : later ⊆ events) :
    FieldRun events start (used + (later.flatMap Event.uniqueFields).length)
      (site.run later).fieldLedger := by
  induction later generalizing site used with
  | nil => exact h
  | cons e later ih =>
      have hnext := ih (h.step (hlater List.mem_cons_self)) (List.subset_of_cons_subset hlater)
      rw [List.flatMap_cons, List.length_append, ← Nat.add_assoc]
      exact hnext

end Site.FieldRun

/-! ## Every site -/

namespace Site

/-- Let no field of a target double another one. After any run of events none does exactly
if every field that was added under a made name was new when it was added. That is so if
the run starts no number over and uses fewer than there are, and no field that was there
before or keeps its name is called like one that the run can make a name for. -/
theorem nodup_fieldKeys_run_iff {site : Site} (hsite : site.target.fieldKeys.Nodup)
    (events : List Event) :
    ((site.run events).target.fieldKeys.Nodup ↔
        MadeNamesAreNew events site.target.fieldKeys (site.run events).target.fieldKeys) ∧
      (Event.reset ∉ events →
        site.allocator.nextField.toNat + (events.flatMap Event.uniqueFields).length < UInt32.size →
        (∀ key, Written events site.target.fieldKeys key →
          ∀ e ∈ events, ∀ n, ¬ e.Generates n key) →
        (site.run events).target.fieldKeys.Nodup) := by
  have hrun : FieldRun events site.fieldLedger (events.flatMap Event.uniqueFields).length
      (site.run events).fieldLedger := by
    simpa using FieldRun.refl.run (List.Subset.refl events)
  refine ⟨⟨?_, hrun.nodup_keys hsite⟩, fun hreset hbound hwritten =>
    hrun.nodup_keys_of_numbers hsite hreset hbound hwritten⟩
  intro hnodup before key after hsplit _ _ hmem
  rw [hsplit] at hnodup
  exact (List.nodup_append.mp hnodup).2.2 key hmem key List.mem_cons_self rfl

/-- Merging a counter into a player renames it, and the two counters are told apart. -/
theorem nodup_fieldKeys_run_player :
    Player.site.target.fieldKeys.Nodup ∧ Player.first.target.fieldKeys.Nodup := by
  have hsite : Player.site.target.fieldKeys.Nodup := by decide
  refine ⟨hsite, (nodup_fieldKeys_run_iff hsite _).2 (by simp) (by decide) ?_⟩
  have hjumps : ∀ key, Written ([Player.mixin].map (Event.apply (Merge.sessionAt .java8)))
      Player.site.target.fieldKeys key → key.1 = .literal "jumps" := by
    rintro key (hold | ⟨e, he, hdeclared⟩)
    · rw [List.mem_singleton.mp hold]
    · obtain rfl := List.mem_singleton.mp he
      obtain ⟨f, hf, _, rfl⟩ := hdeclared
      rw [List.mem_singleton.mp hf]
  intro key hwritten e _ n hmade
  have hdollar := hmade.dollar_mem
  rw [hjumps key hwritten] at hdollar
  exact absurd hdollar (by decide)

end Site

/-! ## A field that is doubled -/

namespace Player

/-- The class as another run with the same session left it: the counter of the mixin is
there already. -/
def mergedBefore : Site :=
  .fresh { target with
    fields := target.fields ++
      [{ name := .literal "fdefwxyz$cool_mod$jumps$0"
         type := .primitive .int
         flags := { isPrivate := true } }] } .empty

/-- The counter of the mixin gets the name and the type of the one that is there. -/
theorem fieldKeys_mergedBefore :
    (Merge.sessionAt .java8).IsBuilt ∧ mergedBefore.target.kind = .cls ∧
      mergedBefore.target.fieldKeys.Nodup ∧
      (∃ report, (mergedBefore.applied (Merge.sessionAt .java8) mixin).outcome = .ok report) ∧
      ¬ (mergedBefore.run [.apply (Merge.sessionAt .java8) mixin]).target.fieldKeys.Nodup := by
  refine ⟨Merge.isBuilt_sessionAt .java8, rfl, ?_, ?_, ?_⟩
  · decide
  · exact Merge.exists_report_of_audit_eq_nil (Merge.isBuilt_sessionAt .java8) (by decide) _ _
  · decide +kernel

end Player

end ClassGraft
