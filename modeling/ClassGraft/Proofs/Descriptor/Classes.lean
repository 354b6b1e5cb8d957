import ClassGraft.Descriptor.Basic

/-!
# The classes that a type names

Types are generic in what stands for a class. `classes` lists what stands there, from
left to right, and a type comes from one over other classes exactly when each class it
names does.
-/

namespace ClassGraft

variable {C D : Type}

/-- The classes that a type names. -/
def RefType.classes : RefType C → List C
  | .object cls => [cls]
  | .objectArray _ cls => [cls]
  | .primitiveArray _ _ => []

/-- The classes that a type names. -/
def FieldType.classes : FieldType C → List C
  | .primitive _ => []
  | .ref type => type.classes

namespace MethodType

/-- The classes that a method type names: those of its parameters, then those of its
result. -/
def classes (t : MethodType C) : List C :=
  t.parameters.flatMap FieldType.classes ++ t.result.toList.flatMap FieldType.classes

/-- The same type over other classes. -/
def map (f : C → D) (t : MethodType C) : MethodType D where
  parameters := t.parameters.map (FieldType.map f)
  result := t.result.map (FieldType.map f)

end MethodType

/-! ## Types over the values of a function -/

theorem RefType.exists_map_eq_iff {f : C → D} {t : RefType D} :
    (∃ s : RefType C, s.map f = t) ↔ ∀ d ∈ t.classes, ∃ c, f c = d := by
  constructor
  · rintro ⟨s, rfl⟩
    cases s <;> simp [map, classes]
  · intro h
    cases t with
    | object cls =>
        obtain ⟨c, rfl⟩ := h cls (by simp [classes])
        exact ⟨.object c, rfl⟩
    | objectArray extra cls =>
        obtain ⟨c, rfl⟩ := h cls (by simp [classes])
        exact ⟨.objectArray extra c, rfl⟩
    | primitiveArray extra p => exact ⟨.primitiveArray extra p, rfl⟩

theorem FieldType.exists_map_eq_iff {f : C → D} {t : FieldType D} :
    (∃ s : FieldType C, s.map f = t) ↔ ∀ d ∈ t.classes, ∃ c, f c = d := by
  constructor
  · rintro ⟨s, rfl⟩
    cases s with
    | primitive p => simp [map, classes]
    | ref r => exact RefType.exists_map_eq_iff.mp ⟨r, rfl⟩
  · intro h
    cases t with
    | primitive p => exact ⟨.primitive p, rfl⟩
    | ref r =>
        obtain ⟨s, rfl⟩ := RefType.exists_map_eq_iff.mpr h
        exact ⟨.ref s, rfl⟩

/-- Types in a row come from types over other classes when each of them does. -/
theorem FieldType.exists_map_map_eq_iff {f : C → D} {ts : List (FieldType D)} :
    (∃ ss : List (FieldType C), ss.map (FieldType.map f) = ts) ↔
      ∀ d ∈ ts.flatMap classes, ∃ c, f c = d := by
  induction ts with
  | nil => simp
  | cons t ts ih =>
      simp only [List.flatMap_cons, List.forall_mem_append, ← ih, ← exists_map_eq_iff]
      constructor
      · rintro ⟨ss, hss⟩
        obtain ⟨s, ss', rfl, hs, hss'⟩ := List.map_eq_cons_iff.mp hss
        exact ⟨⟨s, hs⟩, ss', hss'⟩
      · rintro ⟨⟨s, rfl⟩, ss, rfl⟩
        exact ⟨s :: ss, rfl⟩

theorem MethodType.exists_map_eq_iff {f : C → D} {t : MethodType D} :
    (∃ s : MethodType C, s.map f = t) ↔ ∀ d ∈ t.classes, ∃ c, f c = d := by
  obtain ⟨parameters, result⟩ := t
  simp only [classes, List.forall_mem_append, ← FieldType.exists_map_map_eq_iff]
  constructor
  · rintro ⟨s, hs⟩
    rw [map, MethodType.mk.injEq] at hs
    exact ⟨⟨_, hs.1⟩, s.result.toList, by rw [← hs.2, Option.toList_map]⟩
  · rintro ⟨⟨ss, rfl⟩, rs, hrs⟩
    refine ⟨⟨ss, rs.head?⟩, ?_⟩
    have hresult : rs.head?.map (FieldType.map f) = result := by
      rw [← List.head?_map, hrs, Option.head?_toList]
    rw [map, hresult]

end ClassGraft
