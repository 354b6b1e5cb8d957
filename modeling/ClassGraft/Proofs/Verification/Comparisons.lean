import ClassGraft.Proofs.Verification.UpperBounds

/-!
# What the comparisons accept, by rules

`ClassGraph.isAssignableFrom` compares two types through their join, and
`ClassGraph.isSubtypeOf` adds leniency about interfaces to that. The relations
`ClassGraph.CanHold` and `ClassGraph.Fits` say the same by rules that mention no join: the
strict comparison is the rule for arrays over the class graph, and the lenient one lets an
interface under some dimensions take every reference that is left once these dimensions are
taken off.

The rules hold of every graph. Classes that are not declared can be compared with nothing but
themselves, and they are no interfaces. Two classes for which `ClassGraph.GoesRound` holds are
compared through a join that only a walk with a memory comes to.
-/

namespace ClassGraft

open RefType (ofDepth)

/-! ## Taking dimensions off -/

namespace FieldType

variable {C : Type}

/-- The type of the elements of an array. -/
def component? : FieldType C → Option (FieldType C)
  | .primitive _ => none
  | .ref (.object _) => none
  | .ref (.objectArray 0 cls) => some (.ref (.object cls))
  | .ref (.objectArray (extra + 1) cls) => some (.ref (.objectArray extra cls))
  | .ref (.primitiveArray 0 element) => some (.primitive element)
  | .ref (.primitiveArray (extra + 1) element) => some (.ref (.primitiveArray extra element))

/-- What is left of a type once as many dimensions are taken off. -/
def peel? : Nat → FieldType C → Option (FieldType C)
  | 0, t => some t
  | n + 1, t => t.component?.bind (peel? n)

theorem component?_eq_some_iff {t u : FieldType C} : t.component? = some u ↔ t = u.array := by
  constructor
  · intro h
    match t, h with
    | .ref (.objectArray 0 _), rfl => rfl
    | .ref (.objectArray (_ + 1) _), rfl => rfl
    | .ref (.primitiveArray 0 _), rfl => rfl
    | .ref (.primitiveArray (_ + 1) _), rfl => rfl
  · rintro rfl
    match u with
    | .primitive _ => rfl
    | .ref (.object _) => rfl
    | .ref (.objectArray _ _) => rfl
    | .ref (.primitiveArray _ _) => rfl

/-- Taking dimensions off undoes putting them around a type. -/
theorem peel?_eq_some_iff {n : Nat} {t u : FieldType C} :
    t.peel? n = some u ↔ t = u.arrayOf n := by
  induction n generalizing t with
  | zero => simp [peel?, arrayOf]
  | succ n ih =>
      simp only [peel?, arrayOf, Option.bind_eq_some_iff, component?_eq_some_iff, ih]
      constructor
      · rintro ⟨_, rfl, rfl⟩
        rfl
      · rintro rfl
        exact ⟨_, rfl, rfl⟩

end FieldType

namespace ClassGraph

variable {g : ClassGraph}

/-- A reference is left exactly as long as the type is deep enough, for arrays of primitives
by one dimension more. -/
theorem exists_peel?_ref_iff {n : Nat} {x : RefType ClassName} :
    (∃ y, (FieldType.ref x).peel? n = some (.ref y)) ↔ n ≤ objectDimensions x := by
  induction n generalizing x with
  | zero => simp [FieldType.peel?]
  | succ n ih =>
      cases x with
      | object cls => simp [FieldType.peel?, FieldType.component?, objectDimensions]
      | objectArray extra cls =>
          cases extra with
          | zero => simp [FieldType.peel?, FieldType.component?, ih, objectDimensions]
          | succ extra => simp [FieldType.peel?, FieldType.component?, ih, objectDimensions]
      | primitiveArray extra element =>
          cases extra with
          | zero =>
              -- The elements are primitives, which have no dimensions to take off.
              cases n with
              | zero => simp [FieldType.peel?, FieldType.component?, objectDimensions]
              | succ n => simp [FieldType.peel?, FieldType.component?, objectDimensions]
          | succ extra => simp [FieldType.peel?, FieldType.component?, ih, objectDimensions]

/-! ## The strict comparison -/

/-- `g.CanHold e a`: a slot of the type `e` can hold a value of the type `a`. -/
inductive CanHold (g : ClassGraph) : VerificationType → VerificationType → Prop
  | self (t : VerificationType) : CanHold g t t
  | null (t : VerificationType) : CanHold g t .null
  /-- The root under some dimensions, or none, can hold every array that has more. -/
  | objects {n : Nat} {x : RefType ClassName} (hdeeper : n < x.dimensions) :
      CanHold g (.reference (ofDepth n .object)) (.reference x)
  /-- At one depth, a class can hold what can be used as it. Both have to be declared. -/
  | classes {n : Nat} {c d : ClassName} (hc : (g.resolve c).isSome) (hd : (g.resolve d).isSome)
      (huse : g.isAssignable d c = true) :
      CanHold g (.reference (ofDepth n c)) (.reference (ofDepth n d))

/-- A type that is no class under `n` dimensions has more than `n` of them exactly if that many
can be taken off it and leave a reference. -/
theorem le_objectDimensions_iff {n : Nat} {x : RefType ClassName} (hdepth : ∀ d, x ≠ ofDepth n d) :
    n ≤ objectDimensions x ↔ n < x.dimensions := by
  rcases x.eq_ofDepth_or_primitiveArray with ⟨m, d, rfl⟩ | ⟨extra, element, rfl⟩
  · have hmn : n ≠ m := by
      rintro rfl
      exact hdepth d rfl
    rw [objectDimensions_ofDepth, RefType.dimensions_ofDepth]
    omega
  · exact Nat.lt_succ_iff.symm

/-- The comparison accepts what a rule allows. -/
theorem CanHold.isAssignableFrom {e a : VerificationType} (h : g.CanHold e a) :
    g.isAssignableFrom e a = true := by
  cases h with
  | self t => exact isAssignableFrom_self e
  | null t => exact isAssignableFrom_null e
  | @objects n x hdeeper =>
      have hdepth : ∀ d, x ≠ ofDepth n d := by
        rintro d rfl
        exact absurd hdeeper (by simp)
      exact (isAssignableFrom_ofDepth_of_depth_ne hdepth).mpr
        ⟨rfl, (le_objectDimensions_iff hdepth).mpr hdeeper⟩
  | classes hc hd huse => exact isAssignableFrom_ofDepth_iff.mpr (Or.inr ⟨hc, hd, huse⟩)

/-- Where the comparison accepts a reference, one of the rules is at work. -/
theorem canHold_reference {x y : RefType ClassName}
    (h : g.isAssignableFrom (.reference x) (.reference y) = true) :
    g.CanHold (.reference x) (.reference y) := by
  rcases x.eq_ofDepth_or_primitiveArray with ⟨n, c, rfl⟩ | ⟨extra, element, rfl⟩
  · by_cases hdepth : ∃ d, y = ofDepth n d
    · obtain ⟨d, rfl⟩ := hdepth
      rcases isAssignableFrom_ofDepth_iff.mp h with rfl | ⟨hc, hd, huse⟩
      · exact .self _
      · exact .classes hc hd huse
    · have hshape : ∀ d, y ≠ ofDepth n d := fun d hd => hdepth ⟨d, hd⟩
      obtain ⟨rfl, hle⟩ := (isAssignableFrom_ofDepth_of_depth_ne hshape).mp h
      exact .objects ((le_objectDimensions_iff hshape).mp hle)
  · -- An array of primitives names no interface, so that it accepts what it can hold.
    have haccepts := (accepts_iff_isAssignableFrom (by simp [RefType.classes])).mpr h
    obtain rfl := accepts_primitiveArray_iff.mp haccepts
    exact .self _

/-- So it is wherever the comparison accepts a type. -/
theorem canHold_of_isAssignableFrom {e a : VerificationType} (h : g.isAssignableFrom e a = true) :
    g.CanHold e a := by
  rcases commonSupertype_cases (isAssignableFrom_iff_commonSupertype.mp h) with
    ⟨rfl | rfl, _⟩ | ⟨_, rfl⟩ | ⟨x, y, _, rfl, rfl, _, _⟩
  · exact .self e
  · exact .null e
  · exact .self e
  · exact canHold_reference h

/-- The strict comparison is the rule for arrays over the class graph. -/
theorem isAssignableFrom_iff_canHold (g : ClassGraph) (e a : VerificationType) :
    g.isAssignableFrom e a = true ↔ g.CanHold e a :=
  ⟨canHold_of_isAssignableFrom, CanHold.isAssignableFrom⟩

/-! ## The lenient comparison -/

/-- `g.Fits v e`: the value `v` can be used where `e` is required. -/
inductive Fits (g : ClassGraph) : Slot → Slot → Prop
  | uninitialized : Fits g .uninitialized .uninitialized
  /-- Where a primitive or null is required, only the same type fits. -/
  | same {t : VerificationType} (ht : ∀ x, t ≠ .reference x) : Fits g (.typed t) (.typed t)
  /-- Null fits every reference type. -/
  | null (x : RefType ClassName) : Fits g (.typed .null) (.typed (.reference x))
  /-- So do the references that the type can hold strictly. -/
  | held {x y : RefType ClassName}
      (hheld : g.isAssignableFrom (.reference x) (.reference y) = true) :
      Fits g (.typed (.reference y)) (.typed (.reference x))
  /-- An interface under some dimensions takes any reference under as many. -/
  | interface {n : Nat} {c : ClassName} {y rest : RefType ClassName}
      (hc : g.isInterface c = true) (hrest : (FieldType.ref y).peel? n = some (.ref rest)) :
      Fits g (.typed (.reference y)) (.typed (.reference (ofDepth n c)))

/-- The comparison accepts what a rule allows. -/
theorem Fits.isSubtypeOf {v e : Slot} (h : g.Fits v e) : g.isSubtypeOf v e = true := by
  cases h with
  | uninitialized => rfl
  | same ht => exact isSubtypeOf_self _
  | null x => exact (isSubtypeOf_null_iff (.reference x)).mpr rfl
  | held hheld => simp [ClassGraph.isSubtypeOf, hheld]
  | interface hc hrest =>
      exact accepts_ofDepth_iff_strict.mpr (Or.inr ⟨hc, exists_peel?_ref_iff.mp ⟨_, hrest⟩⟩)

/-- A primitive can only be used as itself. -/
theorem eq_of_isSubtypeOf {t : VerificationType} {e : Slot} (hnull : t ≠ .null)
    (href : ∀ x, t ≠ .reference x) (h : g.isSubtypeOf (.typed t) e = true) : e = .typed t := by
  cases e with
  | uninitialized => simp [isSubtypeOf] at h
  | typed s => cases s <;> cases t <;> simp_all [isSubtypeOf]

/-- Where a reference is let through, one of the rules is at work. -/
theorem fits_of_accepts {x y : RefType ClassName} (h : g.Accepts x y) :
    g.Fits (.typed (.reference y)) (.typed (.reference x)) := by
  rcases x.eq_ofDepth_or_primitiveArray with ⟨n, c, rfl⟩ | ⟨extra, element, rfl⟩
  · rcases accepts_ofDepth_iff_strict.mp h with hheld | ⟨hc, hle⟩
    · exact .held hheld
    · obtain ⟨rest, hrest⟩ := exists_peel?_ref_iff.mpr hle
      exact .interface hc hrest
  · obtain rfl := accepts_primitiveArray_iff.mp h
    exact .held (isAssignableFrom_self _)

/-- So it is wherever a value is. -/
theorem fits_of_isSubtypeOf {v e : Slot} (h : g.isSubtypeOf v e = true) : g.Fits v e := by
  cases v with
  | uninitialized =>
      cases e with
      | uninitialized => exact .uninitialized
      | typed s => simp [isSubtypeOf] at h
  | typed t =>
      by_cases hnull : t = .null
      · subst hnull
        cases e with
        | uninitialized => simp [isSubtypeOf] at h
        | typed s =>
            cases s with
            | null => exact .same (by simp)
            | reference x => exact .null x
            | _ => simp [isSubtypeOf] at h
      by_cases href : ∃ y, t = .reference y
      · obtain ⟨y, rfl⟩ := href
        obtain ⟨x, rfl, haccepts⟩ := isSubtypeOf_reference_iff.mp h
        exact fits_of_accepts haccepts
      · have hprimitive : ∀ x, t ≠ .reference x := fun x hx => href ⟨x, hx⟩
        rw [eq_of_isSubtypeOf hnull hprimitive h]
        exact .same hprimitive

/-- The lenient comparison is the strict one and the leniency about interfaces, and nothing
else. -/
theorem isSubtypeOf_iff_fits (g : ClassGraph) (v e : Slot) :
    g.isSubtypeOf v e = true ↔ g.Fits v e :=
  ⟨fits_of_isSubtypeOf, Fits.isSubtypeOf⟩

-- Of integers in two dimensions rows are left, which are references; of rows integers, which
-- are none.
example :
    Zoo.graph.isSubtypeOf (.typed (.reference (.primitiveArray 1 .int)))
        (.typed (.reference (.objectArray 0 Zoo.pet))) = true ∧
      Zoo.graph.isSubtypeOf (.typed (.reference (.primitiveArray 0 .int)))
        (.typed (.reference (.objectArray 0 Zoo.pet))) = false := by
  decide

end ClassGraph

end ClassGraft
