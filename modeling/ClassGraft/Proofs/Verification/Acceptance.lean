import ClassGraft.Proofs.Descriptor.Classes
import ClassGraft.Proofs.Hierarchy.Listing
import ClassGraft.Verification.Lattice

/-!
# Joins of reference types and what accepts them

A reference type is a class under some number of array dimensions, or an array
of primitives. `RefType.ofDepth` writes the first kind uniformly, so that plain
classes need no case of their own: types of one depth join class by class, and
all others at the objects of the depth that both allow.

In a legal graph the join of two declared types is accepted by exactly the types
that accept both. For an expected class this is the least upper bound of the
hierarchy; an expected interface, or the root, takes whatever is deep enough, and
the join keeps the depth that both sides have.
-/

namespace ClassGraft

/-! ## Depth -/

namespace RefType

variable {C : Type}

/-- A class under as many array dimensions. -/
def ofDepth : Nat → C → RefType C
  | 0, cls => .object cls
  | n + 1, cls => .objectArray n cls

/-- Every type is a class under some dimensions or an array of primitives. -/
theorem eq_ofDepth_or_primitiveArray (t : RefType C) :
    (∃ depth cls, t = ofDepth depth cls) ∨ ∃ extra element, t = .primitiveArray extra element := by
  cases t with
  | object cls => exact Or.inl ⟨0, cls, rfl⟩
  | objectArray extra cls => exact Or.inl ⟨extra + 1, cls, rfl⟩
  | primitiveArray extra element => exact Or.inr ⟨extra, element, rfl⟩

@[simp] theorem ofDepth_inj {m n : Nat} {c d : C} :
    ofDepth m c = ofDepth n d ↔ m = n ∧ c = d := by
  cases m <;> cases n <;> simp [ofDepth]

@[simp] theorem ofDepth_ne_primitiveArray {n extra : Nat} {c : C} {element : Primitive} :
    ofDepth n c ≠ .primitiveArray extra element := by
  cases n <;> simp [ofDepth]

@[simp] theorem dimensions_ofDepth (n : Nat) (c : C) : (ofDepth n c).dimensions = n := by
  cases n <;> rfl

@[simp] theorem classes_ofDepth (n : Nat) (c : C) : (ofDepth n c).classes = [c] := by
  cases n <;> rfl

end RefType

open RefType (ofDepth)

/-- Arrays of objects are the root under dimensions. -/
theorem VerificationType.objectArray_eq_ofDepth (n : Nat) :
    VerificationType.objectArray n = ofDepth n .object := by
  cases n <;> rfl

namespace ClassGraph

variable {g : ClassGraph}

@[simp] theorem objectDimensions_ofDepth (n : Nat) (c : ClassName) :
    objectDimensions (ofDepth n c) = n := by
  cases n <;> rfl

/-- All of the names are declared. -/
def Declares (g : ClassGraph) (names : List ClassName) : Prop :=
  ∀ name ∈ names, (g.resolve name).isSome

instance (g : ClassGraph) (names : List ClassName) : Decidable (g.Declares names) :=
  inferInstanceAs (Decidable (∀ name ∈ names, (g.resolve name).isSome))

/-! ## Joins -/

/-- Types of one depth join class by class. -/
theorem commonRefSupertype_ofDepth (n : Nat) (c d : ClassName) :
    g.commonRefSupertype (ofDepth n c) (ofDepth n d) = (g.commonClass c d).map (ofDepth n) := by
  by_cases hcd : c = d
  · simp [commonRefSupertype, commonClass, hcd, Except.map]
  · cases n with
    | zero =>
        simp only [commonRefSupertype, ofDepth, RefType.object.injEq, if_neg hcd]
        rfl
    | succ n =>
        simp only [commonRefSupertype, ofDepth, RefType.objectArray.injEq, true_and, if_neg hcd]
        rfl

/-- Arrays of which one has primitive elements join at the objects of the depth that both
allow, since a primitive is no object. -/
theorem commonRefSupertype_of_primitive {a b : RefType ClassName} (hne : a ≠ b)
    (ha : 0 < a.dimensions) (hb : 0 < b.dimensions)
    (hprimitive : objectDimensions a < a.dimensions ∨ objectDimensions b < b.dimensions) :
    g.commonRefSupertype a b
      = .ok (VerificationType.objectArray (min (objectDimensions a) (objectDimensions b))) := by
  have hallowed : ∀ t : RefType ClassName, 0 < t.dimensions →
      objectDimensions t = t.dimensions ∨ objectDimensions t + 1 = t.dimensions := by
    intro t ht
    cases t <;> simp_all [objectDimensions, RefType.dimensions]
  have hshallow : g.commonRefSupertype a b
      = if a.dimensions = b.dimensions then .ok (VerificationType.objectArray (a.dimensions - 1))
        else if a.dimensions < b.dimensions then
          .ok (VerificationType.objectArray (objectDimensions a))
        else .ok (VerificationType.objectArray (objectDimensions b)) := by
    cases a <;> cases b <;>
      simp_all [commonRefSupertype, objectDimensions, RefType.dimensions]
  have hallowedA := hallowed a ha
  have hallowedB := hallowed b hb
  rw [hshallow]
  split_ifs
  · rw [show a.dimensions - 1 = min (objectDimensions a) (objectDimensions b) by omega]
  · rw [Nat.min_eq_left (by omega)]
  · rw [Nat.min_eq_right (by omega)]

/-- All types but those of one depth join at the objects of the depth that both allow. -/
theorem commonRefSupertype_of_depth_ne {a b : RefType ClassName} (hne : a ≠ b)
    (hdepth : ∀ n c d, a = ofDepth n c → b ≠ ofDepth n d) :
    g.commonRefSupertype a b
      = .ok (ofDepth (min (objectDimensions a) (objectDimensions b)) .object) := by
  rw [← VerificationType.objectArray_eq_ofDepth]
  cases a with
  | object c =>
      cases b with
      | object d => exact absurd rfl (hdepth 0 c d rfl)
      | objectArray n d => simp [commonRefSupertype, objectDimensions, VerificationType.objectArray]
      | primitiveArray n p =>
          simp [commonRefSupertype, objectDimensions, VerificationType.objectArray]
  | objectArray m c =>
      cases b with
      | object d => simp [commonRefSupertype, objectDimensions, VerificationType.objectArray]
      | objectArray n d =>
          have hmn : m ≠ n := by
            rintro rfl
            exact hdepth (m + 1) c d rfl rfl
          simp [commonRefSupertype, objectDimensions, hmn, Nat.add_min_add_right]
      | primitiveArray n p =>
          exact commonRefSupertype_of_primitive hne (Nat.succ_pos m) (Nat.succ_pos n)
            (Or.inr (Nat.lt_succ_self n))
  | primitiveArray m p =>
      cases b with
      | object d => simp [commonRefSupertype, objectDimensions, VerificationType.objectArray]
      | objectArray n d =>
          exact commonRefSupertype_of_primitive hne (Nat.succ_pos m) (Nat.succ_pos n)
            (Or.inl (Nat.lt_succ_self m))
      | primitiveArray n q =>
          exact commonRefSupertype_of_primitive hne (Nat.succ_pos m) (Nat.succ_pos n)
            (Or.inl (Nat.lt_succ_self m))

/-- The three ways in which two reference types join: each with itself, types of one
depth class by class, and all others at objects. -/
theorem commonRefSupertype_cases (g : ClassGraph) (a b : RefType ClassName) :
    (a = b ∧ g.commonRefSupertype a b = .ok a) ∨
      (∃ n c d, c ≠ d ∧ a = ofDepth n c ∧ b = ofDepth n d ∧
        g.commonRefSupertype a b = (g.commonClass c d).map (ofDepth n)) ∨
      (a ≠ b ∧ (∀ n c d, a = ofDepth n c → b ≠ ofDepth n d) ∧
        g.commonRefSupertype a b
          = .ok (ofDepth (min (objectDimensions a) (objectDimensions b)) .object)) := by
  by_cases hab : a = b
  · exact Or.inl ⟨hab, by simp [commonRefSupertype, hab]⟩
  by_cases hdepth : ∃ n c d, a = ofDepth n c ∧ b = ofDepth n d
  · obtain ⟨n, c, d, rfl, rfl⟩ := hdepth
    have hcd : c ≠ d := by
      rintro rfl
      exact hab rfl
    exact Or.inr (Or.inl ⟨n, c, d, hcd, rfl, rfl, commonRefSupertype_ofDepth n c d⟩)
  · have hshape : ∀ n c d, a = ofDepth n c → b ≠ ofDepth n d := by
      intro n c d hac hbd
      exact hdepth ⟨n, c, d, hac, hbd⟩
    exact Or.inr (Or.inr ⟨hab, hshape, commonRefSupertype_of_depth_ne hab hshape⟩)

theorem objectDimensions_le_dimensions (t : RefType ClassName) :
    objectDimensions t ≤ t.dimensions := by
  cases t with
  | object cls => exact Nat.le_refl 0
  | objectArray extra cls => exact Nat.le_refl (extra + 1)
  | primitiveArray extra element => exact Nat.le_succ extra

/-- A join is no deeper than either of the two types. -/
theorem dimensions_le_of_commonRefSupertype {a b r : RefType ClassName}
    (h : g.commonRefSupertype a b = .ok r) :
    r.dimensions ≤ a.dimensions ∧ r.dimensions ≤ b.dimensions := by
  rcases commonRefSupertype_cases g a b with
    ⟨rfl, hself⟩ | ⟨n, c, d, -, rfl, rfl, hclasses⟩ | ⟨-, -, hobjects⟩
  · obtain rfl : a = r := Except.ok.inj (hself.symm.trans h)
    exact ⟨Nat.le_refl _, Nat.le_refl _⟩
  · obtain ⟨e, -, rfl⟩ := Runs.map_eq_ok_iff.mp (hclasses.symm.trans h)
    simp
  · obtain rfl := Except.ok.inj (hobjects.symm.trans h)
    have ha := objectDimensions_le_dimensions a
    have hb := objectDimensions_le_dimensions b
    rw [RefType.dimensions_ofDepth]
    omega

/-- Two classes join at their nearest common ancestor, and a class with itself. -/
theorem commonClass_eq_ok_iff {c d r : ClassName} :
    g.commonClass c d = .ok r ↔
      (c = d ∧ r = c) ∨ (c ≠ d ∧ g.nearestCommonAncestor c d = .ok r) := by
  unfold commonClass
  by_cases hcd : c = d
  · simp [hcd, eq_comm]
  · simp only [hcd, false_and, false_or, ne_eq, not_false_eq_true, true_and]
    cases hnca : g.nearestCommonAncestor c d with
    | ok r' => simp
    | error refusal => cases refusal <;> simp

/-- A class is its join with another exactly if the other can be used as it. -/
theorem commonClass_eq_left_iff {c d : ClassName} :
    g.commonClass c d = .ok c ↔
      c = d ∨ ((g.resolve c).isSome ∧ (g.resolve d).isSome ∧ g.isAssignable d c = true) := by
  rw [commonClass_eq_ok_iff]
  constructor
  · rintro (⟨rfl, _⟩ | ⟨_, hnca⟩)
    · exact Or.inl rfl
    · obtain ⟨hc, hd⟩ := exists_nearestCommonAncestor_iff.mp ⟨c, hnca⟩
      exact Or.inr ⟨hc, hd, (isAssignable_nearestCommonAncestor hnca).2⟩
  · rintro (rfl | ⟨hc, hd, hassign⟩)
    · exact Or.inl ⟨rfl, rfl⟩
    · by_cases hcd : c = d
      · exact Or.inl ⟨hcd, rfl⟩
      · obtain ⟨r, hnca⟩ := exists_nearestCommonAncestor_iff.mpr ⟨hc, hd⟩
        obtain rfl := eq_left_of_nearestCommonAncestor hnca hassign
        exact Or.inr ⟨hcd, hnca⟩

/-! ## Types and slots -/

/-- A type joins with itself, -/
@[simp] theorem commonSupertype_self (t : VerificationType) : g.commonSupertype t t = .ok t := by
  simp [commonSupertype]

/-- and with null on either side. -/
@[simp] theorem commonSupertype_null (t : VerificationType) :
    g.commonSupertype t .null = .ok t := by
  simp [commonSupertype]

@[simp] theorem null_commonSupertype (t : VerificationType) :
    g.commonSupertype .null t = .ok t := by
  by_cases ht : t = .null
  · rw [ht, commonSupertype_self]
  · simp [commonSupertype, ht]

/-- Two references join as such. -/
theorem commonSupertype_reference (a b : RefType ClassName) :
    g.commonSupertype (.reference a) (.reference b)
      = (g.commonRefSupertype a b).map .reference := by
  by_cases hab : a = b
  · simp [commonSupertype, commonRefSupertype, hab, Except.map]
  · simp [commonSupertype, hab]

/-- Types that differ, are not null and are not both references have nothing in common. -/
theorem commonSupertype_incompatible {a b : VerificationType} (hab : a ≠ b) (ha : a ≠ .null)
    (hb : b ≠ .null) (href : ∀ x y, a = .reference x → b ≠ .reference y) :
    g.commonSupertype a b = .error (.incompatibleTypes a b) := by
  cases a <;> cases b <;> simp_all [commonSupertype]

/-- Two types in slots are joined; if they are incompatible, nothing usable is left. -/
theorem mergeSlots_typed (s t : VerificationType) :
    g.mergeSlots (.typed s) (.typed t)
      = match g.commonSupertype s t with
        | .ok join => .ok (.typed join)
        | .error (.incompatibleTypes _ _) => .ok .uninitialized
        | .error refusal => .error refusal := by
  unfold mergeSlots
  split
  · next hst =>
    obtain rfl : s = t := Slot.typed.inj hst
    rw [commonSupertype_self]
  · rfl

/-- Nothing is usable once one side is unusable. -/
theorem mergeSlots_uninitialized (v : Slot) :
    g.mergeSlots .uninitialized v = .ok .uninitialized ∧
      g.mergeSlots v .uninitialized = .ok .uninitialized := by
  cases v with
  | uninitialized => exact ⟨by simp [mergeSlots], by simp [mergeSlots]⟩
  | typed t => exact ⟨by simp [mergeSlots], by simp [mergeSlots]⟩

/-- What merges to a type are two types, and the type is what they have in common. -/
theorem commonSupertype_of_mergeSlots {v w : Slot} {r : VerificationType}
    (h : g.mergeSlots v w = .ok (.typed r)) :
    ∃ s t, v = .typed s ∧ w = .typed t ∧ g.commonSupertype s t = .ok r := by
  cases v with
  | uninitialized =>
      rw [(mergeSlots_uninitialized w).1] at h
      cases h
  | typed s =>
      cases w with
      | uninitialized =>
          rw [(mergeSlots_uninitialized _).2] at h
          cases h
      | typed t =>
          rw [mergeSlots_typed] at h
          split at h
          · next join hjoin =>
            cases h
            exact ⟨s, t, rfl, rfl, hjoin⟩
          · cases h
          · cases h

/-! ## Acceptance -/

/-- An expected reference type lets a reference through. -/
def Accepts (g : ClassGraph) (expected actual : RefType ClassName) : Prop :=
  g.isSubtypeOf (.typed (.reference actual)) (.typed (.reference expected)) = true

/-- Values of every reference type can be used as the class: it is the root, or
an interface, about which the verifier is lenient. -/
def TakesAny (g : ClassGraph) (cls : ClassName) : Prop :=
  cls = .object ∨ g.isInterface cls = true

/-- The strict comparison asks for the join. -/
theorem isAssignableFrom_iff_commonSupertype {e a : VerificationType} :
    g.isAssignableFrom e a = true ↔ g.commonSupertype e a = .ok e := by
  unfold isAssignableFrom
  cases hjoin : g.commonSupertype e a with
  | ok t => simp
  | error refusal => simp

/-- The strict comparison of references asks for their join. -/
theorem isAssignableFrom_reference_iff {e a : RefType ClassName} :
    g.isAssignableFrom (.reference e) (.reference a) = true ↔ g.commonRefSupertype e a = .ok e := by
  rw [isAssignableFrom_iff_commonSupertype, commonSupertype_reference, Runs.map_eq_ok_iff]
  simp

/-- At its own depth a class can hold itself and, where both are declared, whatever can be
used as it. -/
theorem isAssignableFrom_ofDepth_iff {n : Nat} {c d : ClassName} :
    g.isAssignableFrom (.reference (ofDepth n c)) (.reference (ofDepth n d)) = true ↔
      c = d ∨ ((g.resolve c).isSome ∧ (g.resolve d).isSome ∧ g.isAssignable d c = true) := by
  rw [isAssignableFrom_reference_iff, commonRefSupertype_ofDepth, Runs.map_eq_ok_iff,
    ← commonClass_eq_left_iff]
  simp

/-- At any other depth only the root can hold anything, and only what is deep enough. -/
theorem isAssignableFrom_ofDepth_of_depth_ne {n : Nat} {c : ClassName} {a : RefType ClassName}
    (hdepth : ∀ d, a ≠ ofDepth n d) :
    g.isAssignableFrom (.reference (ofDepth n c)) (.reference a) = true ↔
      c = .object ∧ n ≤ objectDimensions a := by
  have hshape : ∀ k c' d, ofDepth n c = ofDepth k c' → a ≠ ofDepth k d := by
    intro k c' d heq
    obtain ⟨rfl, _⟩ := RefType.ofDepth_inj.mp heq
    exact hdepth d
  have hmin : min n (objectDimensions a) = n ↔ n ≤ objectDimensions a := by omega
  rw [isAssignableFrom_reference_iff, commonRefSupertype_of_depth_ne (Ne.symm (hdepth c)) hshape,
    Except.ok.injEq, RefType.ofDepth_inj, objectDimensions_ofDepth, hmin, and_comm, eq_comm]

/-- Leniency is about interfaces, and about types that are deep enough. -/
theorem leniency_ofDepth (n : Nat) (c : ClassName) (a : RefType ClassName) :
    (match leniency (ofDepth n c) a with
      | some (cls, isDeeper) => g.isInterface cls && isDeeper
      | none => false) = true ↔ g.isInterface c = true ∧ n ≤ objectDimensions a := by
  cases n with
  | zero => simp [ofDepth, leniency]
  | succ n =>
      cases a with
      | object d => simp [ofDepth, leniency, objectDimensions]
      | objectArray m d =>
          by_cases hnm : n ≤ m
          · simp [ofDepth, leniency, objectDimensions, hnm]
          · simp [ofDepth, leniency, objectDimensions, hnm]
      | primitiveArray m p =>
          show _ ↔ g.isInterface c = true ∧ n < m
          by_cases hnm : n ≤ m
          · simp [ofDepth, leniency, hnm]
          · have hlt : ¬ n < m := by omega
            simp [ofDepth, leniency, hnm, hlt]

/-- A class under dimensions lets through what is strictly assignable and, as an
interface, whatever is deep enough. -/
theorem accepts_ofDepth_iff_strict {n : Nat} {c : ClassName} {a : RefType ClassName} :
    g.Accepts (ofDepth n c) a ↔
      g.isAssignableFrom (.reference (ofDepth n c)) (.reference a) = true ∨
        (g.isInterface c = true ∧ n ≤ objectDimensions a) := by
  simp only [Accepts, isSubtypeOf, Bool.or_eq_true]
  exact or_congr Iff.rfl (leniency_ofDepth n c a)

/-- Where no interface is expected, only what is strictly assignable is let through. -/
theorem accepts_iff_isAssignableFrom {e a : RefType ClassName}
    (he : ∀ c ∈ e.classes, g.isInterface c = false) :
    g.Accepts e a ↔ g.isAssignableFrom (.reference e) (.reference a) = true := by
  rcases e.eq_ofDepth_or_primitiveArray with ⟨n, c, rfl⟩ | ⟨n, p, rfl⟩
  · simp [accepts_ofDepth_iff_strict, he c]
  · simp [Accepts, isSubtypeOf, leniency]

/-- An array of primitives accepts itself only. -/
theorem accepts_primitiveArray_iff {n : Nat} {p : Primitive} {a : RefType ClassName} :
    g.Accepts (.primitiveArray n p) a ↔ a = .primitiveArray n p := by
  rw [accepts_iff_isAssignableFrom (by simp [RefType.classes]), isAssignableFrom_reference_iff]
  constructor
  · intro hjoin
    by_contra hne
    rw [commonRefSupertype_of_depth_ne (Ne.symm hne)
      (fun k c _ h => absurd h.symm RefType.ofDepth_ne_primitiveArray)] at hjoin
    exact RefType.ofDepth_ne_primitiveArray (Except.ok.inj hjoin)
  · rintro rfl
    simp [commonRefSupertype]

/-- What a class under dimensions accepts: whatever is deep enough if the class
takes any reference, and at its own depth what can be used as the class. -/
theorem IsRooted.accepts_ofDepth_iff (hg : g.IsRooted) {n : Nat} {c : ClassName}
    {a : RefType ClassName} (ha : g.Declares a.classes) :
    g.Accepts (ofDepth n c) a ↔ (g.TakesAny c ∧ n ≤ objectDimensions a) ∨
      ∃ d, a = ofDepth n d ∧ (g.resolve c).isSome ∧ g.isInterface c = false ∧
        g.isAssignable d c = true := by
  rw [accepts_ofDepth_iff_strict]
  by_cases hdepth : ∃ d, a = ofDepth n d
  · obtain ⟨d, rfl⟩ := hdepth
    have hd : (g.resolve d).isSome := ha d (by simp)
    rw [isAssignableFrom_ofDepth_iff]
    cases hc : g.isInterface c with
    | true => simp [TakesAny, hc]
    | false =>
        constructor
        · rintro (h | ⟨h, _⟩)
          · rcases h with rfl | ⟨hsome, _, hassign⟩
            · exact Or.inr ⟨c, rfl, hd, rfl, isAssignable_self c⟩
            · exact Or.inr ⟨d, rfl, hsome, rfl, hassign⟩
          · cases h
        · rintro (⟨htakes, _⟩ | ⟨d', heq, hsome, _, hassign⟩)
          · rcases htakes with rfl | h
            · exact Or.inl (Or.inr ⟨hg.isSome_object, hd, isAssignable_object d⟩)
            · rw [hc] at h
              cases h
          · obtain ⟨_, rfl⟩ := RefType.ofDepth_inj.mp heq
            exact Or.inl (Or.inr ⟨hsome, hd, hassign⟩)
  · -- At another depth the join is an array of objects, whatever the class is.
    have hne : ∀ d, a ≠ ofDepth n d := fun d h => hdepth ⟨d, h⟩
    rw [isAssignableFrom_ofDepth_of_depth_ne hne]
    have hnone : ¬ ∃ d, a = ofDepth n d ∧ (g.resolve c).isSome ∧ g.isInterface c = false ∧
        g.isAssignable d c = true := fun ⟨d, heq, _⟩ => hdepth ⟨d, heq⟩
    simp only [hnone, or_false, TakesAny]
    tauto

/-! ## Acceptance of joins -/

@[simp] theorem declares_ofDepth {n : Nat} {c : ClassName} :
    g.Declares (ofDepth n c).classes ↔ (g.resolve c).isSome := by
  simp [Declares]

/-- What accepts a class accepts all that is below it, and at the nearest common
ancestor of two classes nothing else is lost. -/
theorem IsRooted.accepts_ancestor_iff (hg : g.IsRooted) {n : Nat} {c d r : ClassName}
    (hc : (g.resolve c).isSome) (hd : (g.resolve d).isSome) (hr : (g.resolve r).isSome)
    (hnca : g.nearestCommonAncestor c d = .ok r) (e : RefType ClassName) :
    g.Accepts e (ofDepth n r) ↔ g.Accepts e (ofDepth n c) ∧ g.Accepts e (ofDepth n d) := by
  rcases e.eq_ofDepth_or_primitiveArray with ⟨k, x, rfl⟩ | ⟨k, p, rfl⟩
  · rw [hg.accepts_ofDepth_iff (declares_ofDepth.mpr hr),
      hg.accepts_ofDepth_iff (declares_ofDepth.mpr hc),
      hg.accepts_ofDepth_iff (declares_ofDepth.mpr hd)]
    simp only [objectDimensions_ofDepth, RefType.ofDepth_inj]
    have hlub := fun hx : g.isInterface x = false =>
      hg.isAssignable_nearestCommonAncestor_iff hnca hx
    constructor
    · rintro (hany | ⟨_, ⟨rfl, rfl⟩, hsome, hx, hassign⟩)
      · exact ⟨Or.inl hany, Or.inl hany⟩
      · obtain ⟨hcx, hdx⟩ := (hlub hx).mp hassign
        exact ⟨Or.inr ⟨c, ⟨rfl, rfl⟩, hsome, hx, hcx⟩, Or.inr ⟨d, ⟨rfl, rfl⟩, hsome, hx, hdx⟩⟩
    · rintro ⟨hany | ⟨_, ⟨rfl, rfl⟩, hsome, hx, hcx⟩, hany' | ⟨_, ⟨_, rfl⟩, _, _, hdx⟩⟩
      · exact Or.inl hany
      · exact Or.inl hany
      · exact Or.inl hany'
      · exact Or.inr ⟨r, ⟨rfl, rfl⟩, hsome, hx, (hlub hx).mpr ⟨hcx, hdx⟩⟩
  · simp [accepts_primitiveArray_iff]

/-- Objects under dimensions are accepted by what takes any reference, as far as it
asks for no more dimensions. -/
theorem IsRooted.accepts_objects_iff (hg : g.IsRooted) {k n : Nat} {x : ClassName} :
    g.Accepts (ofDepth k x) (ofDepth n .object) ↔ g.TakesAny x ∧ k ≤ n := by
  rw [hg.accepts_ofDepth_iff (declares_ofDepth.mpr hg.isSome_object), objectDimensions_ofDepth]
  constructor
  · rintro (hany | ⟨d, heq, _, hx, hassign⟩)
    · exact hany
    · -- Above the root there is the root only.
      obtain ⟨rfl, rfl⟩ := RefType.ofDepth_inj.mp heq
      have htop : x = .object := by
        rcases (isAssignable_class_iff hx).mp hassign with h | h
        · exact h
        · exact hg.eq_object_of_object h
      exact ⟨Or.inl htop, le_refl _⟩
  · intro hany
    exact Or.inl hany

/-- Two types of different shapes are both accepted by exactly what accepts objects at
the depth that both have. -/
theorem IsRooted.accepts_common_objects_iff (hg : g.IsRooted) {a b : RefType ClassName}
    (ha : g.Declares a.classes) (hb : g.Declares b.classes) (hne : a ≠ b)
    (hshape : ∀ n c d, a = ofDepth n c → b ≠ ofDepth n d) (e : RefType ClassName) :
    g.Accepts e (ofDepth (min (objectDimensions a) (objectDimensions b)) .object) ↔
      g.Accepts e a ∧ g.Accepts e b := by
  rcases e.eq_ofDepth_or_primitiveArray with ⟨k, x, rfl⟩ | ⟨k, p, rfl⟩
  · rw [hg.accepts_objects_iff, hg.accepts_ofDepth_iff ha, hg.accepts_ofDepth_iff hb]
    constructor
    · rintro ⟨hany, hle⟩
      exact ⟨Or.inl ⟨hany, by omega⟩, Or.inl ⟨hany, by omega⟩⟩
    · rintro ⟨⟨hany, hle⟩ | ⟨c, rfl, _⟩, ⟨hany', hle'⟩ | ⟨d, hbd, _⟩⟩
      · exact ⟨hany, by omega⟩
      · rw [hbd, objectDimensions_ofDepth]
        exact ⟨hany, by omega⟩
      · rw [objectDimensions_ofDepth]
        exact ⟨hany', by omega⟩
      · exact absurd hbd (hshape k c d rfl)
  · rw [accepts_primitiveArray_iff, accepts_primitiveArray_iff, accepts_primitiveArray_iff]
    constructor
    · intro h
      exact absurd h RefType.ofDepth_ne_primitiveArray
    · rintro ⟨h, h'⟩
      exact absurd (h.trans h'.symm) hne

/-- The join of declared types exists, names declared classes, and is accepted
by exactly the types that accept both. -/
theorem IsLegal.exists_commonRefSupertype (hg : g.IsLegal) {a b : RefType ClassName}
    (ha : g.Declares a.classes) (hb : g.Declares b.classes) :
    ∃ join, g.commonRefSupertype a b = .ok join ∧ g.Declares join.classes ∧
      ∀ e, g.Accepts e join ↔ g.Accepts e a ∧ g.Accepts e b := by
  have hrooted := hg.isRooted
  rcases commonRefSupertype_cases g a b with
    ⟨rfl, hjoin⟩ | ⟨n, c, d, hcd, rfl, rfl, hjoin⟩ | ⟨hab, hshape, hjoin⟩
  · exact ⟨a, hjoin, ha, by simp⟩
  · -- One depth: the classes join.
    have hc := declares_ofDepth.mp ha
    have hd := declares_ofDepth.mp hb
    obtain ⟨r, hnca⟩ := exists_nearestCommonAncestor_iff.mpr ⟨hc, hd⟩
    have hr := hrooted.isSome_nearestCommonAncestor hg.declaresSuperclasses hnca
    have hclass : g.commonClass c d = .ok r := commonClass_eq_ok_iff.mpr (Or.inr ⟨hcd, hnca⟩)
    exact ⟨ofDepth n r, by rw [hjoin, hclass]; rfl, declares_ofDepth.mpr hr,
      hrooted.accepts_ancestor_iff hc hd hr hnca⟩
  · -- Otherwise the join is made of objects, at the depth that both sides have.
    exact ⟨_, hjoin, declares_ofDepth.mpr hrooted.isSome_object,
      hrooted.accepts_common_objects_iff ha hb hab hshape⟩

end ClassGraph

end ClassGraft
