import ClassGraft.Proofs.Verification.Merging

/-!
# The common supertype is a least upper bound

The common supertype of two declared types can hold both of them, and every type that
can hold both can hold it, as long as that type names no interface. It can be an
interface itself, when one of the two types is assignable to the other.

Where no interface is expected, strict and lenient acceptance agree, so that the answer
is least is what acceptance of joins already says. That it is an upper bound needs a
look at the join of two classes, which may be an interface.
-/

namespace ClassGraft

open RefType (ofDepth)

namespace ClassGraph

variable {g : ClassGraph}

/-! ## Strict assignability -/

theorem isAssignableFrom_self (t : VerificationType) : g.isAssignableFrom t t = true := by
  simp [isAssignableFrom, commonSupertype]

/-- Every type can hold null. -/
theorem isAssignableFrom_null (t : VerificationType) : g.isAssignableFrom t .null = true := by
  simp [isAssignableFrom, commonSupertype]

/-- The ways in which two types have a common supertype: one of them has nothing to
add, or both are references. -/
theorem commonSupertype_cases {a b r : VerificationType} (h : g.commonSupertype a b = .ok r) :
    ((a = b ∨ b = .null) ∧ r = a) ∨ (a = .null ∧ r = b) ∨
      ∃ x y z, a = .reference x ∧ b = .reference y ∧ g.commonRefSupertype x y = .ok z ∧
        r = .reference z := by
  unfold commonSupertype at h
  split at h
  · next hsame =>
    cases h
    exact Or.inl ⟨hsame, rfl⟩
  · split at h
    · next hnull =>
      cases h
      exact Or.inr (Or.inl ⟨hnull, rfl⟩)
    · split at h
      · next x y _ _ =>
        obtain ⟨z, hz, rfl⟩ := Runs.map_eq_ok_iff.mp h
        exact Or.inr (Or.inr ⟨x, y, z, rfl, rfl, hz, rfl⟩)
      · cases h

/-- Only reference types can hold a reference. -/
theorem exists_reference_of_isAssignableFrom {u : VerificationType} {a : RefType ClassName}
    (h : g.isAssignableFrom u (.reference a) = true) : ∃ e, u = .reference e := by
  rcases commonSupertype_cases (isAssignableFrom_iff_commonSupertype.mp h) with
    ⟨rfl | hnull, _⟩ | ⟨_, rfl⟩ | ⟨e, _, _, rfl, _⟩
  · exact ⟨a, rfl⟩
  · cases hnull
  · exact ⟨a, rfl⟩
  · exact ⟨e, rfl⟩

/-! ## Joins of references -/

/-- The graph can compare the two types: where they are different classes at one depth, it
declares both classes. -/
def Compares (g : ClassGraph) (e a : VerificationType) : Prop :=
  ∀ n c d, e = .reference (ofDepth n c) → a = .reference (ofDepth n d) → c ≠ d →
    (g.resolve c).isSome ∧ (g.resolve d).isSome

theorem compares_self (t : VerificationType) : g.Compares t t := by
  rintro n c d hc hd hcd
  have hsame := RefType.ofDepth_inj.mp (VerificationType.reference.inj (hc.symm.trans hd))
  exact absurd hsame.2 hcd

/-- Two classes at one depth are compared by their declarations. -/
theorem compares_ofDepth_iff {n : Nat} {c d : ClassName} :
    g.Compares (.reference (ofDepth n c)) (.reference (ofDepth n d)) ↔
      c = d ∨ ((g.resolve c).isSome ∧ (g.resolve d).isSome) := by
  constructor
  · intro h
    by_cases hcd : c = d
    · exact Or.inl hcd
    · exact Or.inr (h n c d rfl rfl hcd)
  · rintro h k c' d' hc hd hne
    obtain ⟨rfl, rfl⟩ := RefType.ofDepth_inj.mp (VerificationType.reference.inj hc)
    obtain ⟨_, rfl⟩ := RefType.ofDepth_inj.mp (VerificationType.reference.inj hd)
    exact h.resolve_left hne

/-- Types of different depths need no comparing. -/
theorem compares_of_depth_ne {n : Nat} {c : ClassName} {a : RefType ClassName}
    (hdepth : ∀ d, a ≠ ofDepth n d) : g.Compares (.reference (ofDepth n c)) (.reference a) := by
  intro k c' d hc ha
  obtain ⟨rfl, _⟩ := RefType.ofDepth_inj.mp (VerificationType.reference.inj hc)
  exact absurd (VerificationType.reference.inj ha) (hdepth d)

/-- A class that another one can be used as can hold it at any depth, if the graph can
compare the two. -/
theorem isAssignableFrom_ofDepth_iff_compares {n : Nat} {c r : ClassName}
    (h : g.isAssignable c r = true) :
    g.isAssignableFrom (.reference (ofDepth n r)) (.reference (ofDepth n c)) = true ↔
      g.Compares (.reference (ofDepth n r)) (.reference (ofDepth n c)) := by
  rw [isAssignableFrom_ofDepth_iff, compares_ofDepth_iff]
  simp only [h, and_true]

/-- So can objects hold what is deep enough. -/
theorem isAssignableFrom_objects_iff_compares {n : Nat} {a : RefType ClassName}
    (hle : n ≤ objectDimensions a) :
    g.isAssignableFrom (.reference (ofDepth n .object)) (.reference a) = true ↔
      g.Compares (.reference (ofDepth n .object)) (.reference a) := by
  by_cases hdepth : ∃ d, a = ofDepth n d
  · obtain ⟨d, rfl⟩ := hdepth
    exact isAssignableFrom_ofDepth_iff_compares (isAssignable_object d)
  · have hne : ∀ d, a ≠ ofDepth n d := fun d h => hdepth ⟨d, h⟩
    rw [isAssignableFrom_ofDepth_of_depth_ne hne]
    exact iff_of_true ⟨rfl, hle⟩ (compares_of_depth_ne hne)

/-- The join of two references can hold each of them that the graph can compare with it. -/
theorem isAssignableFrom_join_iff_compares {x y z : RefType ClassName}
    (h : g.commonRefSupertype x y = .ok z) :
    (g.isAssignableFrom (.reference z) (.reference x) = true ↔
        g.Compares (.reference z) (.reference x)) ∧
      (g.isAssignableFrom (.reference z) (.reference y) = true ↔
        g.Compares (.reference z) (.reference y)) := by
  rcases commonRefSupertype_cases g x y with
    ⟨rfl, hself⟩ | ⟨n, c, d, hcd, rfl, rfl, hclasses⟩ | ⟨hxy, hshape, hobjects⟩
  · obtain rfl : x = z := Except.ok.inj (hself.symm.trans h)
    have hboth : g.isAssignableFrom (.reference x) (.reference x) = true ↔
        g.Compares (.reference x) (.reference x) :=
      iff_of_true (isAssignableFrom_self _) (compares_self _)
    exact ⟨hboth, hboth⟩
  · rw [hclasses, Runs.map_eq_ok_iff] at h
    obtain ⟨r, hclass, rfl⟩ := h
    rcases commonClass_eq_ok_iff.mp hclass with ⟨heq, _⟩ | ⟨_, hnca⟩
    · exact absurd heq hcd
    · obtain ⟨hcr, hdr⟩ := isAssignable_nearestCommonAncestor hnca
      exact ⟨isAssignableFrom_ofDepth_iff_compares hcr, isAssignableFrom_ofDepth_iff_compares hdr⟩
  · rw [← Except.ok.inj (hobjects.symm.trans h)]
    exact ⟨isAssignableFrom_objects_iff_compares (min_le_left _ _),
      isAssignableFrom_objects_iff_compares (min_le_right _ _)⟩

/-- Types that name declared classes only can be compared. -/
theorem compares_of_declares {e a : VerificationType} (he : g.Declares e.classes)
    (ha : g.Declares a.classes) : g.Compares e a := by
  rintro n c d rfl rfl _
  exact ⟨declares_ofDepth.mp he, declares_ofDepth.mp ha⟩

/-- The join of two declared references can hold both. -/
theorem IsLegal.isAssignableFrom_join (hg : g.IsLegal) {x y z : RefType ClassName}
    (hx : g.Declares x.classes) (hy : g.Declares y.classes)
    (h : g.commonRefSupertype x y = .ok z) :
    g.isAssignableFrom (.reference z) (.reference x) = true ∧
      g.isAssignableFrom (.reference z) (.reference y) = true := by
  obtain ⟨join, hjoin, hz, _⟩ := hg.exists_commonRefSupertype hx hy
  obtain rfl : join = z := Except.ok.inj (hjoin.symm.trans h)
  obtain ⟨hjx, hjy⟩ := isAssignableFrom_join_iff_compares h
  exact ⟨hjx.mpr (compares_of_declares hz hx), hjy.mpr (compares_of_declares hz hy)⟩

/-- What names no interface and can hold two references can hold their join. -/
theorem IsLegal.isAssignableFrom_of_common (hg : g.IsLegal) {x y z e : RefType ClassName}
    (hx : g.Declares x.classes) (hy : g.Declares y.classes)
    (h : g.commonRefSupertype x y = .ok z) (he : ∀ c ∈ e.classes, g.isInterface c = false)
    (hex : g.isAssignableFrom (.reference e) (.reference x) = true)
    (hey : g.isAssignableFrom (.reference e) (.reference y) = true) :
    g.isAssignableFrom (.reference e) (.reference z) = true := by
  obtain ⟨join, hjoin, _, haccepts⟩ := hg.exists_commonRefSupertype hx hy
  obtain rfl : join = z := Except.ok.inj (hjoin.symm.trans h)
  rw [← accepts_iff_isAssignableFrom he] at hex hey ⊢
  exact (haccepts e).mpr ⟨hex, hey⟩

/-! ## Joins of types -/

/-- The common supertype of two declared types can hold both, and every type that names
no interface and can hold both can hold it. -/
theorem IsLegal.isLeast_commonSupertype (hg : g.IsLegal) {a b r : VerificationType}
    (ha : g.Declares a.classes) (hb : g.Declares b.classes)
    (h : g.commonSupertype a b = .ok r) :
    g.isAssignableFrom r a = true ∧ g.isAssignableFrom r b = true ∧
      ∀ u : VerificationType, (∀ c ∈ u.classes, g.isInterface c = false) →
        g.isAssignableFrom u a = true → g.isAssignableFrom u b = true →
          g.isAssignableFrom u r = true := by
  rcases commonSupertype_cases h with
    ⟨rfl | rfl, rfl⟩ | ⟨rfl, rfl⟩ | ⟨x, y, z, rfl, rfl, hjoin, rfl⟩
  · exact ⟨isAssignableFrom_self _, isAssignableFrom_self _, fun _ _ hua _ => hua⟩
  · exact ⟨isAssignableFrom_self _, isAssignableFrom_null _, fun _ _ hua _ => hua⟩
  · exact ⟨isAssignableFrom_null _, isAssignableFrom_self _, fun _ _ _ hub => hub⟩
  · obtain ⟨hzx, hzy⟩ := hg.isAssignableFrom_join ha hb hjoin
    refine ⟨hzx, hzy, ?_⟩
    intro u hu hux huy
    obtain ⟨e, rfl⟩ := exists_reference_of_isAssignableFrom hux
    exact hg.isAssignableFrom_of_common ha hb hjoin hu hux huy

/-- Dogs and integers in two dimensions have objects in one as their least upper
bound. -/
theorem isLeast_commonSupertype_arrays :
    let dogs : VerificationType := .reference (.objectArray 1 Zoo.dog)
    let integers : VerificationType := .reference (.primitiveArray 1 .int)
    let objects : VerificationType := .reference (.objectArray 0 .object)
    Zoo.graph.commonSupertype dogs integers = .ok objects ∧
      Zoo.graph.isAssignableFrom objects dogs = true ∧
      Zoo.graph.isAssignableFrom objects integers = true ∧
      ∀ u : VerificationType, (∀ c ∈ u.classes, Zoo.graph.isInterface c = false) →
        Zoo.graph.isAssignableFrom u dogs = true → Zoo.graph.isAssignableFrom u integers = true →
          Zoo.graph.isAssignableFrom u objects = true :=
  ⟨by decide, Zoo.isLegal_graph.isLeast_commonSupertype (by decide) (by decide) (by decide)⟩

end ClassGraph

end ClassGraft
