import ClassGraft.Proofs.Descriptor.Readers

/-!
# Types as arrays of their innermost elements

Every type is an array of an innermost element that is no array itself, with as many
dimensions as the type is deep, and it is so in one way only. Putting dimensions around a
type adds to its depth, keeps its innermost element, writes as many brackets in front of
its descriptor, and does not care in how many goes this is done or over which classes.

Depths are kept as dimensions beyond the first, in two kinds of arrays. `array` adds one
dimension to any kind of type, so its lemmas split these kinds, and what holds of `arrayOf`
follows by induction on the number of dimensions.
-/

namespace ClassGraft

variable {C D : Type}

namespace FieldType

/-- Number of array dimensions; zero for a primitive and for a class. -/
def dimensions : FieldType C → Nat
  | primitive _ => 0
  | ref type => type.dimensions

/-- The innermost element of an array, and the type itself when it is none. -/
def elementType : FieldType C → FieldType C
  | primitive type => .primitive type
  | ref type => type.elementType

/-! ## One more dimension -/

@[simp] theorem dimensions_array (t : FieldType C) : t.array.dimensions = t.dimensions + 1 :=
  match t with
  | primitive _ => rfl
  | ref (.object _) => rfl
  | ref (.objectArray _ _) => rfl
  | ref (.primitiveArray _ _) => rfl

@[simp] theorem elementType_array (t : FieldType C) : t.array.elementType = t.elementType :=
  match t with
  | primitive _ => rfl
  | ref (.object _) => rfl
  | ref (.objectArray _ _) => rfl
  | ref (.primitiveArray _ _) => rfl

theorem render_array (t : FieldType ClassName) : t.array.render = '[' :: t.render :=
  match t with
  | primitive _ => rfl
  | ref (.object _) => rfl
  | ref (.objectArray _ _) => rfl
  | ref (.primitiveArray _ _) => rfl

theorem map_array (f : C → D) (t : FieldType C) : t.array.map f = (t.map f).array :=
  match t with
  | primitive _ => rfl
  | ref (.object _) => rfl
  | ref (.objectArray _ _) => rfl
  | ref (.primitiveArray _ _) => rfl

/-! ## More dimensions -/

theorem arrayOf_arrayOf (t : FieldType C) (m n : Nat) :
    (t.arrayOf m).arrayOf n = t.arrayOf (m + n) := by
  induction n with
  | zero => rfl
  | succ n ih => exact congrArg array ih

@[simp] theorem dimensions_arrayOf (t : FieldType C) (n : Nat) :
    (t.arrayOf n).dimensions = t.dimensions + n := by
  induction n with
  | zero => rfl
  | succ n ih => rw [arrayOf, dimensions_array, ih, Nat.add_assoc]

@[simp] theorem elementType_arrayOf (t : FieldType C) (n : Nat) :
    (t.arrayOf n).elementType = t.elementType := by
  induction n with
  | zero => rfl
  | succ n ih => rw [arrayOf, elementType_array, ih]

theorem render_arrayOf (t : FieldType ClassName) (n : Nat) :
    (t.arrayOf n).render = List.replicate n '[' ++ t.render := by
  induction n with
  | zero => rfl
  | succ n ih => rw [arrayOf, render_array, ih, List.replicate_succ, List.cons_append]

theorem map_arrayOf (f : C → D) (t : FieldType C) (n : Nat) :
    (t.arrayOf n).map f = (t.map f).arrayOf n := by
  induction n with
  | zero => rfl
  | succ n ih => rw [arrayOf, arrayOf, map_array, ih]

end FieldType

namespace RefType

/-- A reference type is the array of its element with as many dimensions as it has. -/
theorem arrayOf_elementType (r : RefType C) : r.elementType.arrayOf r.dimensions = .ref r := by
  cases r with
  | object cls => rfl
  | objectArray extra cls =>
      induction extra with
      | zero => rfl
      | succ extra ih => exact congrArg FieldType.array ih
  | primitiveArray extra element =>
      induction extra with
      | zero => rfl
      | succ extra ih => exact congrArg FieldType.array ih

theorem dimensions_map (f : C → D) (r : RefType C) : (r.map f).dimensions = r.dimensions := by
  cases r <;> rfl

end RefType

namespace FieldType

theorem elementType_of_dimensions {t : FieldType C} (h : t.dimensions = 0) : t.elementType = t :=
  match t with
  | primitive _ => rfl
  | ref (.object _) => rfl
  | ref (.objectArray extra _) => absurd h extra.succ_ne_zero
  | ref (.primitiveArray extra _) => absurd h extra.succ_ne_zero

@[simp] theorem dimensions_elementType (t : FieldType C) : t.elementType.dimensions = 0 :=
  match t with
  | primitive _ => rfl
  | ref (.object _) => rfl
  | ref (.objectArray _ _) => rfl
  | ref (.primitiveArray _ _) => rfl

/-- Every type is an array of something that is none in one way: of its innermost element, with
its own depth. -/
theorem eq_arrayOf_iff {t u : FieldType C} {n : Nat} :
    (u.dimensions = 0 ∧ t = u.arrayOf n) ↔ (u = t.elementType ∧ n = t.dimensions) := by
  constructor
  · rintro ⟨hu, rfl⟩
    rw [elementType_arrayOf, dimensions_arrayOf, hu, Nat.zero_add]
    exact ⟨(elementType_of_dimensions hu).symm, rfl⟩
  · rintro ⟨rfl, rfl⟩
    refine ⟨dimensions_elementType t, ?_⟩
    cases t with
    | primitive type => rfl
    | ref type => exact type.arrayOf_elementType.symm

/-! ## How deep a type is that was read -/

/-- Each dimension is a bracket in the descriptor, and the innermost element is written too. -/
theorem dimensions_lt_length_render (t : FieldType ClassName) :
    t.dimensions < t.render.length := by
  have harray : t = t.elementType.arrayOf t.dimensions := (eq_arrayOf_iff.mpr ⟨rfl, rfl⟩).2
  have hrender : t.render = List.replicate t.dimensions '[' ++ t.elementType.render :=
    calc t.render
      _ = (t.elementType.arrayOf t.dimensions).render := congrArg render harray
      _ = _ := render_arrayOf t.elementType t.dimensions
  obtain ⟨c, tail, helement, -⟩ := t.elementType.exists_render_eq_cons
  rw [hrender, helement, List.length_append, List.length_replicate, List.length_cons]
  omega

/-- So a type that was read has fewer dimensions than there were characters. -/
theorem dimensions_lt_of_read {buffer rest : Text} {t : FieldType ClassName}
    (h : FieldType.read buffer = .ok t rest) : t.dimensions < buffer.length := by
  rw [eq_render_of_read h, List.length_append]
  exact Nat.lt_add_right _ t.dimensions_lt_length_render

end FieldType

/-- Arrays compose, and they come apart into depth and innermost element. -/
theorem arrays_compose_decompose (f : C → D) :
    (∀ (t : FieldType C) (m n : Nat),
      (t.arrayOf m).arrayOf n = t.arrayOf (m + n) ∧
        ((t.arrayOf m).arrayOf n).dimensions = t.dimensions + (m + n) ∧
        ((t.arrayOf m).arrayOf n).elementType = t.elementType) ∧
      (∀ (t : FieldType ClassName) (m n : Nat),
        ((t.arrayOf m).arrayOf n).render = List.replicate (n + m) '[' ++ t.render) ∧
      (∀ r : RefType C, r.elementType.arrayOf r.dimensions = .ref r) ∧
      (∀ (t u : FieldType C) (n : Nat),
        (u.dimensions = 0 ∧ t = u.arrayOf n) ↔ (u = t.elementType ∧ n = t.dimensions)) ∧
      (∀ r : RefType C, (r.map f).dimensions = r.dimensions) ∧
      ∀ (t : FieldType C) (n : Nat), (t.arrayOf n).map f = (t.map f).arrayOf n := by
  refine ⟨?_, ?_, RefType.arrayOf_elementType, fun _ _ _ => FieldType.eq_arrayOf_iff,
    RefType.dimensions_map f, FieldType.map_arrayOf f⟩
  · intro t m n
    rw [FieldType.arrayOf_arrayOf]
    exact ⟨rfl, t.dimensions_arrayOf (m + n), t.elementType_arrayOf (m + n)⟩
  · intro t m n
    rw [FieldType.arrayOf_arrayOf, FieldType.render_arrayOf, Nat.add_comm]

end ClassGraft
