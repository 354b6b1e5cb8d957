import ClassGraft.Proofs.Verification.Joins
import ClassGraft.Proofs.Verification.Symmetry

/-!
# Merging slots that name no interface

As long as no interface takes part, slots form a semilattice under merging: null is at
the bottom, the unusable slot at the top, and any number of slots merge to one and the
same slot in every order.

Merging in two orders gives two results that the same types accept; that holds with
interfaces as well. What is special here is that such results are equal: without
interfaces they stay without, each then accepts the other strictly, and strict
acceptance in both directions is equality, because the common supertype is symmetric.
-/

namespace ClassGraft

open RefType (ofDepth)

/-- A slot whose kind is a reference holds one. -/
theorem Slot.exists_reference_of_kind {v : Slot} (h : v.kind = .reference) :
    ∃ a, v = .typed (.reference a) := by
  cases v with
  | uninitialized => cases h
  | typed type =>
      cases type with
      | reference a => exact ⟨a, rfl⟩
      | _ => cases h

namespace ClassGraph

variable {g : ClassGraph}

/-- All of the names are declared, and none as an interface. -/
def NamesClasses (g : ClassGraph) (names : List ClassName) : Prop :=
  ∀ name ∈ names, (g.resolve name).isSome ∧ g.isInterface name = false

instance (g : ClassGraph) (names : List ClassName) : Decidable (g.NamesClasses names) :=
  inferInstanceAs (Decidable (∀ name ∈ names, (g.resolve name).isSome ∧ g.isInterface name = false))

theorem NamesClasses.declares {names : List ClassName} (h : g.NamesClasses names) :
    g.Declares names := fun name hname => (h name hname).1

@[simp] theorem namesClasses_nil : g.NamesClasses [] := by
  intro name hname
  cases hname

@[simp] theorem namesClasses_ofDepth {n : Nat} {c : ClassName} :
    g.NamesClasses (ofDepth n c).classes ↔ (g.resolve c).isSome ∧ g.isInterface c = false := by
  simp [NamesClasses]

/-! ## No interface comes in -/

/-- The join of references that name no interface names none. -/
theorem IsLegal.namesClasses_commonRefSupertype (hg : g.IsLegal) {a b join : RefType ClassName}
    (ha : g.NamesClasses a.classes) (hb : g.NamesClasses b.classes)
    (h : g.commonRefSupertype a b = .ok join) : g.NamesClasses join.classes := by
  rcases commonRefSupertype_cases g a b with
    ⟨rfl, hself⟩ | ⟨n, c, d, hcd, rfl, rfl, hclasses⟩ | ⟨_, _, hobjects⟩
  · exact Except.ok.inj (hself.symm.trans h) ▸ ha
  · rw [hclasses, Runs.map_eq_ok_iff] at h
    obtain ⟨r, hclass, rfl⟩ := h
    have hnca : g.nearestCommonAncestor c d = .ok r := by
      rcases commonClass_eq_ok_iff.mp hclass with ⟨heq, _⟩ | ⟨_, hnca⟩
      · exact absurd heq hcd
      · exact hnca
    rw [namesClasses_ofDepth] at ha hb ⊢
    exact ⟨hg.isRooted.isSome_nearestCommonAncestor hg.declaresSuperclasses hnca,
      hg.isOrdered.isInterface_nearestCommonAncestor ha.2 hb.2 hnca⟩
  · rw [← Except.ok.inj (hobjects.symm.trans h), namesClasses_ofDepth]
    exact ⟨hg.isRooted.isSome_object, hg.isRooted.isInterface_object⟩

/-- So does the common supertype of two types. -/
theorem IsLegal.namesClasses_commonSupertype (hg : g.IsLegal) {a b join : VerificationType}
    (ha : g.NamesClasses a.classes) (hb : g.NamesClasses b.classes)
    (h : g.commonSupertype a b = .ok join) : g.NamesClasses join.classes := by
  rcases commonSupertype_cases h with ⟨_, rfl⟩ | ⟨_, rfl⟩ | ⟨x, y, z, rfl, rfl, hjoin, rfl⟩
  · exact ha
  · exact hb
  · exact hg.namesClasses_commonRefSupertype ha hb hjoin

/-- And so does what two slots merge to. -/
theorem IsLegal.namesClasses_mergeSlots (hg : g.IsLegal) {v w r : Slot}
    (hv : g.NamesClasses v.classes) (hw : g.NamesClasses w.classes)
    (h : g.mergeSlots v w = .ok r) : g.NamesClasses r.classes := by
  cases r with
  | uninitialized => exact namesClasses_nil
  | typed join =>
      obtain ⟨s, t, rfl, rfl, hjoin⟩ := commonSupertype_of_mergeSlots h
      exact hg.namesClasses_commonSupertype hv hw hjoin

/-! ## Acceptance tells such slots apart -/

/-- References that name no interface and that the same types accept are equal. -/
theorem IsOrdered.eq_of_accepts_iff (hg : g.IsOrdered) {a b : RefType ClassName}
    (ha : g.NamesClasses a.classes) (hb : g.NamesClasses b.classes)
    (h : ∀ e, g.Accepts e a ↔ g.Accepts e b) : a = b := by
  have hself : ∀ {x : RefType ClassName}, g.NamesClasses x.classes → g.Accepts x x := by
    intro x hx
    exact (accepts_iff_isAssignableFrom fun c hc => (hx c hc).2).mpr (isAssignableFrom_self _)
  have hab : g.commonRefSupertype a b = .ok a :=
    isAssignableFrom_reference_iff.mp
      ((accepts_iff_isAssignableFrom fun c hc => (ha c hc).2).mp ((h a).mp (hself ha)))
  have hba : g.commonRefSupertype b a = .ok b :=
    isAssignableFrom_reference_iff.mp
      ((accepts_iff_isAssignableFrom fun c hc => (hb c hc).2).mp ((h b).mpr (hself hb)))
  exact hg.commonRefSupertype_comm hab hba

/-- Slots of one kind that name no interface and that the same references accept are
equal. -/
theorem IsOrdered.eq_of_accepted_alike (hg : g.IsOrdered) {v w : Slot}
    (hv : g.NamesClasses v.classes) (hw : g.NamesClasses w.classes) (hkind : v.kind = w.kind)
    (h : v.kind = .reference →
      ∀ e, g.isSubtypeOf v e = true ↔ g.isSubtypeOf w e = true) : v = w := by
  by_cases href : v.kind = .reference
  · obtain ⟨a, rfl⟩ := Slot.exists_reference_of_kind href
    obtain ⟨b, rfl⟩ := Slot.exists_reference_of_kind (hkind ▸ href)
    rw [hg.eq_of_accepts_iff hv hw fun e => h href (.typed (.reference e))]
  · exact Slot.eq_of_kind_eq hkind href

end ClassGraph

/-! ## Any number of slots -/

namespace MergeTree

variable {g : ClassGraph}

/-- What slots that name no interface merge to names none. -/
theorem namesClasses_result (hg : g.IsLegal) {t : MergeTree} {v : Slot}
    (ht : ∀ s ∈ t.slots, g.NamesClasses s.classes) (h : t.result g = .ok v) :
    g.NamesClasses v.classes := by
  induction t generalizing v with
  | slot value =>
      cases h
      exact ht _ (by simp [slots])
  | merge left right ihl ihr =>
      simp only [result, Runs.bind_eq_ok_iff] at h
      obtain ⟨x, hx, y, hy, hmerge⟩ := h
      exact hg.namesClasses_mergeSlots (ihl (fun s hs => ht s (List.mem_append_left _ hs)) hx)
        (ihr (fun s hs => ht s (List.mem_append_right _ hs)) hy) hmerge

/-- Slots that name no interface merge to one slot in every order. -/
theorem exists_result_of_perm (hg : g.IsLegal) {t u : MergeTree} (hperm : u.slots.Perm t.slots)
    (ht : ∀ s ∈ t.slots, g.NamesClasses s.classes) :
    ∃ r, t.result g = .ok r ∧ u.result g = .ok r ∧ g.NamesClasses r.classes := by
  have hu : ∀ s ∈ u.slots, g.NamesClasses s.classes := fun s hs => ht s (hperm.mem_iff.mp hs)
  obtain ⟨v, hv, _, hvkind, hvaccept⟩ := exists_result hg fun s hs => (ht s hs).declares
  obtain ⟨w, hw, _, hwkind, hwaccept⟩ := exists_result hg fun s hs => (hu s hs).declares
  have hvclasses := namesClasses_result hg ht hv
  have hwclasses := namesClasses_result hg hu hw
  have hkind : v.kind = w.kind := by rw [hvkind, hwkind, joinedKind_perm hperm]
  have hsame : v = w := by
    refine hg.isOrdered.eq_of_accepted_alike hvclasses hwclasses hkind ?_
    intro href e
    rw [hvaccept (Or.inr href) e, hwaccept (Or.inr (hkind ▸ href)) e]
    simp only [hperm.mem_iff]
  exact ⟨v, hv, hsame ▸ hw, hvclasses⟩

end MergeTree

/-! ## The laws -/

namespace ClassGraph

variable {g : ClassGraph}

/-- Null adds nothing to a type, on either side. -/
theorem mergeSlots_null (t : VerificationType) :
    g.mergeSlots (.typed .null) (.typed t) = .ok (.typed t) ∧
      g.mergeSlots (.typed t) (.typed .null) = .ok (.typed t) := by
  exact ⟨by rw [mergeSlots_typed, null_commonSupertype],
    by rw [mergeSlots_typed, commonSupertype_null]⟩

/-- Slots that name classes of the graph and no interfaces merge to such a slot, and
merging them is commutative, associative and idempotent. Null is neutral among typed
slots, an unusable slot absorbs, and any number of slots merge to one slot in every
order and grouping. -/
theorem IsLegal.mergeSlots_laws (hg : g.IsLegal) :
    (∀ v w, g.NamesClasses v.classes → g.NamesClasses w.classes →
      ∃ r, g.mergeSlots v w = .ok r ∧ g.mergeSlots w v = .ok r ∧ g.NamesClasses r.classes) ∧
    (∀ u v w, g.NamesClasses u.classes → g.NamesClasses v.classes → g.NamesClasses w.classes →
      ∃ r, (do g.mergeSlots (← g.mergeSlots u v) w) = .ok r ∧
        (do g.mergeSlots u (← g.mergeSlots v w)) = .ok r) ∧
    (∀ v, g.mergeSlots v v = .ok v) ∧
    (∀ t, g.mergeSlots (.typed .null) (.typed t) = .ok (.typed t) ∧
      g.mergeSlots (.typed t) (.typed .null) = .ok (.typed t)) ∧
    (∀ v, g.mergeSlots .uninitialized v = .ok .uninitialized ∧
      g.mergeSlots v .uninitialized = .ok .uninitialized) ∧
    ∀ t : MergeTree, (∀ s ∈ t.slots, g.NamesClasses s.classes) →
      ∃ r, g.NamesClasses r.classes ∧
        ∀ u : MergeTree, u.slots.Perm t.slots → u.result g = .ok r := by
  refine ⟨?_, ?_, ?_, mergeSlots_null, mergeSlots_uninitialized, ?_⟩
  · intro v w hv hw
    have hslots : ∀ s ∈ [v, w], g.NamesClasses s.classes := by simp [hv, hw]
    exact MergeTree.exists_result_of_perm hg (t := .merge (.slot v) (.slot w))
      (u := .merge (.slot w) (.slot v)) (List.Perm.swap v w []) hslots
  · intro u v w hu hv hw
    have hslots : ∀ s ∈ [u, v, w], g.NamesClasses s.classes := by simp [hu, hv, hw]
    obtain ⟨r, hleft, hright, _⟩ := MergeTree.exists_result_of_perm hg
      (t := .merge (.merge (.slot u) (.slot v)) (.slot w))
      (u := .merge (.slot u) (.merge (.slot v) (.slot w))) (List.Perm.refl _) hslots
    exact ⟨r, hleft, hright⟩
  · intro v
    simp [mergeSlots]
  · intro t ht
    obtain ⟨r, hr, _, hclasses⟩ := MergeTree.exists_result_of_perm hg (List.Perm.refl _) ht
    refine ⟨r, hclasses, ?_⟩
    intro u hperm
    obtain ⟨r', hr', hu, _⟩ := MergeTree.exists_result_of_perm hg hperm ht
    rw [hu, ← hr', hr]

end ClassGraph

namespace Zoo

/-- Dogs and ints in two dimensions and null merge to objects in one, whatever comes
first. -/
theorem mergeSlots_laws_arrays :
    let dogs : Slot := .typed (.reference (.objectArray 1 dog))
    let ints : Slot := .typed (.reference (.primitiveArray 1 .int))
    let objects : Slot := .typed (.reference (.objectArray 0 .object))
    graph.mergeSlots dogs ints = .ok objects ∧ graph.mergeSlots ints dogs = .ok objects ∧
      ∀ u : MergeTree, u.slots.Perm [dogs, ints, .typed .null] → u.result graph = .ok objects := by
  intro dogs ints objects
  obtain ⟨hcomm, _, _, _, _, horders⟩ := isLegal_graph.mergeSlots_laws
  have hboth : graph.mergeSlots dogs ints = .ok objects := by decide
  obtain ⟨r, hr, hr', _⟩ := hcomm dogs ints (by decide) (by decide)
  obtain rfl : objects = r := Except.ok.inj (hboth.symm.trans hr)
  let t : MergeTree := .merge (.merge (.slot dogs) (.slot ints)) (.slot (.typed .null))
  have ht : t.result graph = .ok objects := by decide
  obtain ⟨s, _, hs⟩ := horders t (by decide)
  obtain rfl : objects = s := Except.ok.inj (ht.symm.trans (hs t (List.Perm.refl _)))
  exact ⟨hr, hr', hs⟩

end Zoo

end ClassGraft
