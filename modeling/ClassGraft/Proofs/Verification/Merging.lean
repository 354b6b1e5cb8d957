import Mathlib.Data.List.Perm.Basic
import ClassGraft.Proofs.Verification.Acceptance

/-!
# Merging slots in any order

Values that flow together are merged two at a time, in whatever order the paths
are visited. Merging is not associative once interfaces take part: a dog, a cat
and a pet come to an object or to a pet. What the result can be used for does not
depend on the order all the same, as the main statement says.

The proof keeps two things about the result of a `MergeTree`. Its kind is a fold
of the kinds of the leaves, and kinds form a semilattice with null at the bottom
and the unusable slot at the top. And where the result is a reference, a type
accepts it exactly if it accepts every leaf.
-/

namespace ClassGraft

/-! ## Kinds of slots -/

/-- What a slot holds, up to the class of a reference. -/
inductive SlotKind where
  | null
  /-- A primitive or, in a slot by itself, any type that joins only with itself. -/
  | primitive (type : VerificationType)
  | reference
  | unusable
  deriving DecidableEq

namespace SlotKind

/-- The kind of two slots merged. -/
def join : SlotKind → SlotKind → SlotKind
  | .null, k => k
  | k, .null => k
  | k, l => if k = l then k else .unusable

theorem join_comm (k l : SlotKind) : k.join l = l.join k := by
  cases k <;> cases l <;> simp [join, eq_comm]
  next s t =>
    by_cases hst : s = t
    · simp [hst]
    · simp [hst]

theorem join_assoc (k l m : SlotKind) : (k.join l).join m = k.join (l.join m) := by
  cases k <;> cases l <;> cases m <;> simp [join] <;> split_ifs <;> simp_all

theorem join_self (k : SlotKind) : k.join k = k := by
  cases k <;> simp [join]

@[simp] theorem join_null (k : SlotKind) : k.join .null = k := by
  cases k <;> rfl

@[simp] theorem null_join (k : SlotKind) : SlotKind.null.join k = k := by
  cases k <;> rfl

/-- Null and references, the kinds that a reference type accepts. -/
def Refers (k : SlotKind) : Prop := k = .null ∨ k = .reference

/-- A joined kind is one of them only if both kinds are. -/
theorem refers_of_join {k l : SlotKind} (h : (k.join l).Refers) : k.Refers ∧ l.Refers := by
  cases k <;> cases l <;> simp_all [join, Refers]
  next s t =>
    by_cases hst : s = t
    · simp [hst] at h
    · simp [hst] at h

end SlotKind

/-- The kind of a verification type. -/
def VerificationType.kind : VerificationType → SlotKind
  | .null => .null
  | .reference _ => .reference
  | t => .primitive t

/-- The classes that a verification type names. -/
def VerificationType.classes : VerificationType → List ClassName
  | .reference type => type.classes
  | _ => []

namespace Slot

/-- The kind of a slot. -/
def kind : Slot → SlotKind
  | uninitialized => .unusable
  | typed type => type.kind

/-- The classes that a slot names. -/
def classes : Slot → List ClassName
  | uninitialized => []
  | typed type => type.classes

/-- Only references differ from slots of the same kind. -/
theorem eq_of_kind_eq {v w : Slot} (h : v.kind = w.kind) (hne : v.kind ≠ .reference) : v = w := by
  cases v with
  | uninitialized =>
      cases w with
      | uninitialized => rfl
      | typed t => cases t <;> simp [kind, VerificationType.kind] at h
  | typed s =>
      cases w with
      | uninitialized => cases s <;> simp [kind, VerificationType.kind] at h
      | typed t =>
          cases s <;> cases t <;> simp_all [kind, VerificationType.kind]

end Slot

namespace ClassGraph

variable {g : ClassGraph}

/-! ## Merging two slots -/

/-- What lets a reference through lets null through. -/
theorem isSubtypeOf_null_of_reference {a : RefType ClassName} {e : Slot}
    (h : g.isSubtypeOf (.typed (.reference a)) e = true) :
    g.isSubtypeOf (.typed .null) e = true := by
  cases e with
  | uninitialized => simp [isSubtypeOf] at h
  | typed t => cases t <;> simp_all [isSubtypeOf]

/-- A reference is accepted by reference types only. -/
theorem isSubtypeOf_reference_iff {a : RefType ClassName} {e : Slot} :
    g.isSubtypeOf (.typed (.reference a)) e = true ↔
      ∃ x, e = .typed (.reference x) ∧ g.Accepts x a := by
  cases e with
  | uninitialized => simp [isSubtypeOf]
  | typed t => cases t <;> simp [isSubtypeOf, Accepts]

/-- Types that differ and are neither null nor both references do not go
together. -/
theorem mergeSlots_incompatible {s t : VerificationType} (hst : s ≠ t) (hs : s ≠ .null)
    (ht : t ≠ .null) (href : ∀ a b, s = .reference a → t ≠ .reference b) :
    g.mergeSlots (.typed s) (.typed t) = .ok .uninitialized ∧
      s.kind.join t.kind = .unusable := by
  constructor
  · rw [mergeSlots_typed, commonSupertype_incompatible hst hs ht href]
  · cases s <;> cases t <;> simp_all [VerificationType.kind, SlotKind.join]

/-- What a merge has to say about its result, given the two slots. -/
def IsMerge (g : ClassGraph) (v w r : Slot) : Prop :=
  g.Declares r.classes ∧ r.kind = v.kind.join w.kind ∧
    (r.kind.Refers →
      ∀ e, g.isSubtypeOf r e = true ↔ g.isSubtypeOf v e = true ∧ g.isSubtypeOf w e = true)

theorem IsMerge.symm {v w r : Slot} (h : g.IsMerge v w r) : g.IsMerge w v r := by
  obtain ⟨hdecl, hkind, haccept⟩ := h
  refine ⟨hdecl, by rw [hkind, SlotKind.join_comm], ?_⟩
  intro hr e
  rw [haccept hr e, and_comm]

/-- Null adds nothing to a type that it differs from. -/
theorem isMerge_null {s : VerificationType} (hs : g.Declares s.classes) (hne : s ≠ .null) :
    g.IsMerge (.typed s) (.typed .null) (.typed s) := by
  refine ⟨hs, (SlotKind.join_null _).symm, ?_⟩
  intro hr e
  cases s with
  | reference a =>
      constructor
      · intro h
        exact ⟨h, isSubtypeOf_null_of_reference h⟩
      · intro h
        exact h.1
  | null => exact absurd rfl hne
  | integer => simp [Slot.kind, VerificationType.kind, SlotKind.Refers] at hr
  | float => simp [Slot.kind, VerificationType.kind, SlotKind.Refers] at hr
  | double => simp [Slot.kind, VerificationType.kind, SlotKind.Refers] at hr
  | long => simp [Slot.kind, VerificationType.kind, SlotKind.Refers] at hr

/-- Nothing goes with an unusable slot. -/
theorem isMerge_uninitialized (v : Slot) : g.IsMerge v .uninitialized .uninitialized := by
  refine ⟨by simp [Declares, Slot.classes], ?_, by simp [Slot.kind, SlotKind.Refers]⟩
  cases v with
  | uninitialized => rfl
  | typed t => cases t <;> rfl

/-- Two declared slots merge: the result names declared classes, has the joined
kind and, if it is null or a reference, is accepted by what accepts both. -/
theorem IsLegal.exists_mergeSlots (hg : g.IsLegal) {v w : Slot} (hv : g.Declares v.classes)
    (hw : g.Declares w.classes) : ∃ r, g.mergeSlots v w = .ok r ∧ g.IsMerge v w r := by
  by_cases hvw : v = w
  · subst hvw
    exact ⟨v, by simp [mergeSlots], hv, (SlotKind.join_self _).symm, by simp⟩
  cases v with
  | uninitialized =>
      exact ⟨.uninitialized, (mergeSlots_uninitialized w).1, (isMerge_uninitialized w).symm⟩
  | typed s =>
      cases w with
      | uninitialized =>
          exact ⟨.uninitialized, (mergeSlots_uninitialized _).2, isMerge_uninitialized _⟩
      | typed t =>
          have hst : s ≠ t := fun h => hvw (congrArg Slot.typed h)
          by_cases ht : t = .null
          · subst ht
            exact ⟨.typed s, by rw [mergeSlots_typed, commonSupertype_null], isMerge_null hv hst⟩
          by_cases hs : s = .null
          · subst hs
            exact ⟨.typed t, by rw [mergeSlots_typed, null_commonSupertype],
              (isMerge_null hw (Ne.symm hst)).symm⟩
          by_cases href : ∃ a b, s = .reference a ∧ t = .reference b
          · -- Two references: their join is accepted by what accepts both.
            obtain ⟨a, b, rfl, rfl⟩ := href
            obtain ⟨join, hjoin, hdecl, haccepts⟩ := hg.exists_commonRefSupertype hv hw
            refine ⟨.typed (.reference join), ?_, hdecl, rfl, ?_⟩
            · rw [mergeSlots_typed, commonSupertype_reference, hjoin]
              rfl
            · intro _ e
              simp only [isSubtypeOf_reference_iff]
              constructor
              · rintro ⟨x, rfl, hx⟩
                obtain ⟨ha, hb⟩ := (haccepts x).mp hx
                exact ⟨⟨x, rfl, ha⟩, ⟨x, rfl, hb⟩⟩
              · rintro ⟨⟨x, rfl, ha⟩, ⟨y, hxy, hb⟩⟩
                cases hxy
                exact ⟨x, rfl, (haccepts x).mpr ⟨ha, hb⟩⟩
          · obtain ⟨hmerge, hkind⟩ := mergeSlots_incompatible (g := g) hst hs ht
              (fun a b h h' => href ⟨a, b, h, h'⟩)
            exact ⟨.uninitialized, hmerge, by simp [Declares, Slot.classes], hkind.symm,
              by simp [Slot.kind, SlotKind.Refers]⟩

/-! ## Merging many slots -/

end ClassGraph

/-- An order in which slots are merged: a slot by itself, or the results of two
orders merged. -/
inductive MergeTree where
  | slot (value : Slot)
  | merge (left right : MergeTree)

namespace MergeTree

/-- The slots that are merged, from left to right. -/
def slots : MergeTree → List Slot
  | slot value => [value]
  | merge left right => left.slots ++ right.slots

/-- What merging in this order comes to. -/
def result (g : ClassGraph) : MergeTree → Except VerifierError Slot
  | slot value => .ok value
  | merge left right => do
    let v ← left.result g
    let w ← right.result g
    g.mergeSlots v w

/-- The joined kind of slots. -/
def joinedKind (slots : List Slot) : SlotKind :=
  slots.foldr (fun s k => s.kind.join k) .null

theorem joinedKind_append (xs ys : List Slot) :
    joinedKind (xs ++ ys) = (joinedKind xs).join (joinedKind ys) := by
  induction xs with
  | nil => simp [joinedKind]
  | cons x xs ih =>
      have hcons : ∀ zs, joinedKind (x :: zs) = x.kind.join (joinedKind zs) := fun _ => rfl
      rw [List.cons_append, hcons, hcons, ih, SlotKind.join_assoc]

/-- The order of the slots does not matter for their kind. -/
theorem joinedKind_perm {xs ys : List Slot} (h : xs.Perm ys) : joinedKind xs = joinedKind ys := by
  induction h with
  | nil => rfl
  | cons x _ ih => exact congrArg x.kind.join ih
  | swap x y zs =>
      show y.kind.join (x.kind.join (joinedKind zs)) = x.kind.join (y.kind.join (joinedKind zs))
      rw [← SlotKind.join_assoc, ← SlotKind.join_assoc, SlotKind.join_comm y.kind]
  | trans _ _ ih ih' => exact ih.trans ih'

/-- Merging declared slots succeeds in every order. The result has the joined
kind of the slots and, if it is null or a reference, is accepted by what accepts
every slot. -/
theorem exists_result {g : ClassGraph} (hg : g.IsLegal) {t : MergeTree}
    (ht : ∀ s ∈ t.slots, g.Declares s.classes) :
    ∃ v, t.result g = .ok v ∧ g.Declares v.classes ∧ v.kind = joinedKind t.slots ∧
      (v.kind.Refers →
        ∀ e, g.isSubtypeOf v e = true ↔ ∀ s ∈ t.slots, g.isSubtypeOf s e = true) := by
  induction t with
  | slot value =>
      refine ⟨value, rfl, ht value (by simp [slots]), ?_, ?_⟩
      · simp [joinedKind, slots]
      · intro _ e
        simp [slots]
  | merge left right ihl ihr =>
      obtain ⟨v, hv, hvdecl, hvkind, hvaccept⟩ :=
        ihl fun s hs => ht s (List.mem_append_left _ hs)
      obtain ⟨w, hw, hwdecl, hwkind, hwaccept⟩ :=
        ihr fun s hs => ht s (List.mem_append_right _ hs)
      obtain ⟨r, hr, hdecl, hkind, haccept⟩ := hg.exists_mergeSlots hvdecl hwdecl
      refine ⟨r, by simp [result, hv, hw, hr, bind, Except.bind], hdecl, ?_, ?_⟩
      · rw [hkind, hvkind, hwkind, slots, joinedKind_append]
      · intro hnr e
        have hboth : v.kind.Refers ∧ w.kind.Refers := SlotKind.refers_of_join (hkind ▸ hnr)
        rw [haccept hnr e, hvaccept hboth.1 e, hwaccept hboth.2 e, slots]
        simp only [List.forall_mem_append]

/-- Whatever the order in which declared slots are merged, it succeeds, and any
two results can be used for the same things. -/
theorem exists_results_accepted_alike {g : ClassGraph} (hg : g.IsLegal) {slots : List Slot}
    (hslots : ∀ s ∈ slots, g.Declares s.classes) {t u : MergeTree} (ht : t.slots.Perm slots)
    (hu : u.slots.Perm slots) :
    ∃ v w, t.result g = .ok v ∧ u.result g = .ok w ∧
      ∀ e, g.isSubtypeOf v e = g.isSubtypeOf w e := by
  obtain ⟨v, hv, _, hvkind, hvaccept⟩ :=
    exists_result hg fun s hs => hslots s (ht.mem_iff.mp hs)
  obtain ⟨w, hw, _, hwkind, hwaccept⟩ :=
    exists_result hg fun s hs => hslots s (hu.mem_iff.mp hs)
  refine ⟨v, w, hv, hw, ?_⟩
  have hkind : v.kind = w.kind := by rw [hvkind, hwkind, joinedKind_perm (ht.trans hu.symm)]
  intro e
  by_cases href : v.kind = .reference
  · rw [Bool.eq_iff_iff, hvaccept (Or.inr href) e, hwaccept (Or.inr (hkind ▸ href)) e]
    simp only [ht.mem_iff, hu.mem_iff]
  · rw [Slot.eq_of_kind_eq hkind href]

/-- A dog, a cat and a pet, merged from the left and from the right. -/
theorem exists_results_pets :
    ∃ v w,
      (merge (merge (slot (.typed (.object Zoo.dog))) (slot (.typed (.object Zoo.cat))))
        (slot (.typed (.object Zoo.pet)))).result Zoo.graph = .ok v ∧
      (merge (slot (.typed (.object Zoo.dog)))
        (merge (slot (.typed (.object Zoo.cat)))
          (slot (.typed (.object Zoo.pet))))).result Zoo.graph = .ok w ∧
      ∀ e, Zoo.graph.isSubtypeOf v e = Zoo.graph.isSubtypeOf w e := by
  have hdeclared : ∀ s ∈ [Slot.typed (.object Zoo.dog), .typed (.object Zoo.cat),
      .typed (.object Zoo.pet)], Zoo.graph.Declares s.classes := by decide
  exact exists_results_accepted_alike Zoo.isLegal_graph hdeclared (List.Perm.refl _)
    (List.Perm.refl _)

end MergeTree

end ClassGraft
