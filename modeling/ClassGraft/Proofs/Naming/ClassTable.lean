import ClassGraft.Proofs.Naming.ClassNumbers

/-!
# A table of classes with an index

A registry finds the number of a class by its place in the list of classes. `ClassTable` keeps an
index from classes to numbers beside this list and looks classes up in the index alone. Nothing
but the way in which it is filled makes the two belong together: `ClassTable.IsPaired` says that
they do, one request keeps it, and so it holds all along a run.

The main statement follows a registry and its allocators through a run of demands. A table that
is asked for the same classes lists them as the registry does, its index and its list undo each
other, and whatever class comes next has the same number in both.
-/

namespace ClassGraft

/-- Numbered classes, and an index to find their numbers by. -/
structure ClassTable where
  /-- The classes, in the order of their numbers. -/
  classes : List ClassName := []
  /-- The number of each class. -/
  index : List (ClassName × Nat) := []
  deriving DecidableEq

namespace ClassTable

/-- The table without classes. -/
def empty : ClassTable := {}

/-- The number of a class by the index. A class that is not in it goes to the end of the list,
and into the index with its place there. -/
def classId (t : ClassTable) (c : ClassName) : Nat × ClassTable :=
  match t.index.lookup c with
  | some id => (id, t)
  | none =>
    (t.classes.length,
      { classes := t.classes ++ [c], index := (c, t.classes.length) :: t.index })

variable {t : ClassTable} {c : ClassName} {id : Nat}

theorem classId_of_known (h : t.index.lookup c = some id) : t.classId c = (id, t) := by
  rw [classId, h]

theorem classId_of_new (h : t.index.lookup c = none) :
    t.classId c = (t.classes.length,
      { classes := t.classes ++ [c], index := (c, t.classes.length) :: t.index }) := by
  rw [classId, h]

/-! ## List and index -/

/-- The index and the list undo each other: a class has a number in the index exactly if it
stands at this place in the list. -/
def IsPaired (t : ClassTable) : Prop :=
  ∀ c id, t.index.lookup c = some id ↔ t.classes[id]? = some c

theorem isPaired_empty : empty.IsPaired := by
  intro c id
  simp [empty]

namespace IsPaired

/-- A class that is listed is in the index with its place. -/
theorem lookup_of_mem (h : t.IsPaired) (hc : c ∈ t.classes) :
    t.index.lookup c = some (t.classes.idxOf c) :=
  (h c _).mpr (List.getElem?_idxOf hc)

/-- A class that is not listed is not in the index. -/
theorem lookup_of_not_mem (h : t.IsPaired) (hc : c ∉ t.classes) : t.index.lookup c = none := by
  rw [Option.eq_none_iff_forall_not_mem]
  intro id hid
  exact hc (List.mem_of_getElem? ((h c id).mp hid))

/-- A request is answered by the place of the class, which is behind all others if it is new. -/
theorem classId_eq (h : t.IsPaired) (c : ClassName) :
    t.classId c = (t.classes.idxOf c, if c ∈ t.classes then t else
      { classes := t.classes ++ [c], index := (c, t.classes.length) :: t.index }) := by
  by_cases hc : c ∈ t.classes
  · rw [classId_of_known (h.lookup_of_mem hc), if_pos hc]
  · rw [classId_of_new (h.lookup_of_not_mem hc), if_neg hc, List.idxOf_eq_length hc]

/-- It keeps list and index together. -/
theorem classId (h : t.IsPaired) (c : ClassName) : (t.classId c).2.IsPaired := by
  rw [h.classId_eq]
  by_cases hc : c ∈ t.classes
  · rw [if_pos hc]
    exact h
  · rw [if_neg hc]
    intro other id
    have hlast : (t.classes ++ [c])[id]? = some other ↔
        t.classes[id]? = some other ∨ (id = t.classes.length ∧ c = other) := by
      grind
    rw [hlast, List.lookup_cons]
    rcases eq_or_ne other c with rfl | hother
    · -- The new class stands at the end and nowhere else.
      have hnew : ¬ t.classes[id]? = some other := fun hget => hc (List.mem_of_getElem? hget)
      simp [hnew, eq_comm]
    · have hbeq : (other == c) = false := beq_false_of_ne hother
      simp [hbeq, hother.symm, h other id]

end IsPaired

/-! ## Runs -/

/-- A table keeps list and index together and lists the classes that it was asked for as they
were first seen. -/
theorem after_classId (asked : List ClassName) :
    (Runs.after classId empty asked).IsPaired ∧
      (Runs.after classId empty asked).classes = asked.eraseDups := by
  induction asked using List.reverseRecOn with
  | nil => exact ⟨isPaired_empty, rfl⟩
  | append_singleton asked c ih =>
      obtain ⟨hpaired, hclasses⟩ := ih
      rw [Runs.after_append]
      refine ⟨hpaired.classId c, ?_⟩
      show ((Runs.after classId empty asked).classId c).2.classes = _
      rw [hpaired.classId_eq, FirstSeen.eraseDups_concat, ← hclasses]
      dsimp only
      split <;> rfl

/-- A registry and its allocators are asked for anything, and a table for the classes alone. Then
the table lists the classes of the registry, its index undoes this list, and both have the same
number for whatever class comes next. -/
theorem classId_after_demands {ι : Type} [DecidableEq ι] (targets : ι → ClassName)
    (demands : List (Sharing.Demand ι)) :
    let r := (Runs.after Sharing.serve (Sharing.new targets) demands).registry
    let t := Runs.after classId empty (demands.filterMap (Sharing.Demand.class? targets))
    t.classes = r.classes ∧
      (∀ c id, t.index.lookup c = some id ↔ r.classes[id]? = some c) ∧
      ∀ c, (t.classId c).1 = (r.classId c).1 := by
  intro r t
  obtain ⟨hpaired, hclasses⟩ := after_classId (demands.filterMap (Sharing.Demand.class? targets))
  have hseen : r.HasSeen _ := (Sharing.isNumbered_after targets demands).registry
  have hsame : t.classes = r.classes := hclasses.trans hseen.symm
  refine ⟨hsame, hsame ▸ hpaired, fun c => ?_⟩
  rw [hpaired.classId_eq, r.classId_eq_idxOf, hsame]

end ClassTable

end ClassGraft
