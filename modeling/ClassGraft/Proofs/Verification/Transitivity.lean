import ClassGraft.Proofs.Verification.Comparisons

/-!
# Use of values in a row

Whatever can be used as a second type, which can be used as a third one, can be used as the
third one. Together with `ClassGraph.isSubtypeOf_self` this makes the lenient comparison a
preorder on the slots of a graph, although it joins a strict order with a rule that lets any
reference through.

Two facts carry the proof. The number of dimensions that leave a reference never grows on the
way up, so an interface or the root under some of them takes whatever is below something that
it takes. And a class that is no interface is above an interface only as the root, so a step
that only leniency allows is never followed by a strict one to another class.
-/

namespace ClassGraft

open RefType (ofDepth)

namespace ClassGraph

variable {g : ClassGraph}

/-! ## One step -/

/-- What takes any reference is declared. -/
theorem TakesAny.isSome_resolve (hg : g.IsRooted) {c : ClassName} (h : g.TakesAny c) :
    (g.resolve c).isSome := by
  rcases h with rfl | hinterface
  · exact hg.isSome_object
  · obtain ⟨e, hres, _⟩ := (Option.any_eq_true _ _).mp hinterface
    rw [hres]
    rfl

/-- Only the root is a class above something that takes any reference. -/
theorem TakesAny.eq_object_of_isAssignable (hg : g.IsRooted) {c d : ClassName}
    (hd : g.TakesAny d) (hc : g.isInterface c = false) (h : g.isAssignable d c = true) :
    c = .object := by
  rcases (isAssignable_class_iff hc).mp h with rfl | hpath
  · rfl
  · rcases hd with rfl | hinterface
    · exact hg.eq_object_of_object hpath
    · exact hg.eq_object_of_interface hinterface hc hpath

/-- What accepts a declared type is declared. -/
theorem IsRooted.declares_of_accepts (hg : g.IsRooted) {e a : RefType ClassName}
    (ha : g.Declares a.classes) (h : g.Accepts e a) : g.Declares e.classes := by
  rcases e.eq_ofDepth_or_primitiveArray with ⟨n, c, rfl⟩ | ⟨extra, element, rfl⟩
  · rw [declares_ofDepth]
    rcases (hg.accepts_ofDepth_iff ha).mp h with ⟨htakes, _⟩ | ⟨_, _, hc, _, _⟩
    · exact htakes.isSome_resolve hg
    · exact hc
  · rw [accepts_primitiveArray_iff.mp h] at ha
    exact ha

/-- What accepts a declared type has no more dimensions that leave a reference. -/
theorem IsRooted.objectDimensions_le_of_accepts (hg : g.IsRooted) {e a : RefType ClassName}
    (ha : g.Declares a.classes) (h : g.Accepts e a) :
    objectDimensions e ≤ objectDimensions a := by
  rcases e.eq_ofDepth_or_primitiveArray with ⟨n, c, rfl⟩ | ⟨extra, element, rfl⟩
  · rw [objectDimensions_ofDepth]
    rcases (hg.accepts_ofDepth_iff ha).mp h with ⟨_, hle⟩ | ⟨d, rfl, _⟩
    · exact hle
    · rw [objectDimensions_ofDepth]
  · rw [accepts_primitiveArray_iff.mp h]

/-! ## Two steps -/

/-- What accepts a reference type accepts every declared type that this one accepts. -/
theorem IsRooted.accepts_trans (hg : g.IsRooted) {x y z : RefType ClassName}
    (hx : g.Declares x.classes) (hxy : g.Accepts y x) (hyz : g.Accepts z y) : g.Accepts z x := by
  have hy : g.Declares y.classes := hg.declares_of_accepts hx hxy
  have hdepth : objectDimensions y ≤ objectDimensions x := hg.objectDimensions_le_of_accepts hx hxy
  rcases z.eq_ofDepth_or_primitiveArray with ⟨n, c, rfl⟩ | ⟨extra, element, rfl⟩
  · rw [hg.accepts_ofDepth_iff hx]
    rcases (hg.accepts_ofDepth_iff hy).mp hyz with ⟨htakes, hle⟩ | ⟨d, rfl, hsome, hc, hdc⟩
    · exact Or.inl ⟨htakes, hle.trans hdepth⟩
    · -- The second step is strict, and the class of the third type is no interface.
      rcases (hg.accepts_ofDepth_iff hx).mp hxy with ⟨htakes, hle⟩ | ⟨b, rfl, _, _, hbd⟩
      · have hroot : c = .object := htakes.eq_object_of_isAssignable hg hc hdc
        exact Or.inl ⟨Or.inl hroot, hle⟩
      · exact Or.inr ⟨b, rfl, hsome, hc, hg.isAssignable_trans hc hbd hdc⟩
  · rw [accepts_primitiveArray_iff.mp hyz] at hxy
    exact hxy

/-- The values of one slot that can be used as a second one can be used as whatever that one
can be used as. -/
theorem IsRooted.isSubtypeOf_trans (hg : g.IsRooted) {x y z : Slot} (hx : g.Declares x.classes)
    (hxy : g.isSubtypeOf x y = true) (hyz : g.isSubtypeOf y z = true) :
    g.isSubtypeOf x z = true := by
  cases x with
  | uninitialized =>
      cases y with
      | uninitialized => exact hyz
      | typed s => simp [isSubtypeOf] at hxy
  | typed t =>
      by_cases hnull : t = .null
      · subst hnull
        cases y with
        | uninitialized => simp [isSubtypeOf] at hxy
        | typed s =>
            cases s with
            | null => exact hyz
            | reference b => exact isSubtypeOf_null_of_reference hyz
            | _ => simp [isSubtypeOf] at hxy
      by_cases href : ∃ a, t = .reference a
      · obtain ⟨a, rfl⟩ := href
        obtain ⟨b, rfl, hab⟩ := isSubtypeOf_reference_iff.mp hxy
        obtain ⟨c, rfl, hbc⟩ := isSubtypeOf_reference_iff.mp hyz
        exact hg.accepts_trans hx hab hbc
      · have hprimitive : ∀ a, t ≠ .reference a := fun a ha => href ⟨a, ha⟩
        rw [eq_of_isSubtypeOf hnull hprimitive hxy] at hyz
        exact hyz

/-- In the graph of a listing the lenient comparison is a preorder on the slots that name
declared classes, whatever steps leniency takes part in. Only the slot at the bottom has to
name declared ones, and chains of superclasses may go in circles. -/
theorem isSubtypeOf_refl_trans (hlisted : ∃ listing, ofListing listing = .ok g) :
    (∀ x : Slot, g.isSubtypeOf x x = true) ∧
      ∀ x y z : Slot, g.Declares x.classes → g.isSubtypeOf x y = true →
        g.isSubtypeOf y z = true → g.isSubtypeOf x z = true := by
  refine ⟨isSubtypeOf_self, ?_⟩
  intro x y z hx hxy hyz
  exact (isRooted_of_isListed hlisted).isSubtypeOf_trans hx hxy hyz

end ClassGraph

namespace Zoo

/-- Integers in two dimensions can be used as pets in one through leniency alone, and pets in
one as objects in one; so can the integers. -/
theorem isSubtypeOf_refl_trans_arrays :
    let integers : Slot := .typed (.reference (.primitiveArray 1 .int))
    let pets : Slot := .typed (.reference (.objectArray 0 pet))
    let objects : Slot := .typed (.reference (.objectArray 0 .object))
    (∃ listing, ClassGraph.ofListing listing = .ok graph) ∧ graph.isSubtypeOf pets pets = true ∧
      graph.isAssignableFrom (.reference (.objectArray 0 pet))
        (.reference (.primitiveArray 1 .int)) = false ∧
      graph.isSubtypeOf integers pets = true ∧ graph.isSubtypeOf pets objects = true ∧
      graph.isSubtypeOf integers objects = true := by
  intro integers pets objects
  have hlenient : graph.isSubtypeOf integers pets = true := by decide
  have hstrict : graph.isSubtypeOf pets objects = true := by decide
  obtain ⟨hrefl, htrans⟩ := ClassGraph.isSubtypeOf_refl_trans isLegal_graph.isListed
  exact ⟨isLegal_graph.isListed, hrefl pets, by decide, hlenient, hstrict,
    htrans integers pets objects (by decide) hlenient hstrict⟩

end Zoo

end ClassGraft
