import ClassGraft.Proofs.Hierarchy.Listing

/-!
# Assignability as an order

Where the links of a graph have no cycle, two classes that can be used as each other
are one class. The nearest common ancestor of two classes is a least upper bound among
the classes that are no interfaces, and so it does not matter which of the two it is
searched from, although only the superclasses of the first one are walked.

None of this needs the superclasses to be declared: a chain that ends at an undeclared
class ends there from both sides.
-/

namespace ClassGraft.ClassGraph

open Relation

variable {g : ClassGraph}

/-- The graph of a listing without cycles in which no class extends an interface. The
superclasses that it names may be left undeclared. -/
structure IsOrdered (g : ClassGraph) : Prop where
  /-- The graph was read from a listing. -/
  isListed : ∃ listing, ofListing listing = .ok g
  /-- Superclass and interface links have no cycle. -/
  isAcyclic : ∀ a, ¬ TransGen (g.IsLink true) a a
  /-- No class has an interface as its superclass. -/
  extendsNoInterface : ∀ a b, g.isInterface a = false → g.Extends a b → g.isInterface b = false

/-- A legal graph is one in which every superclass is declared besides. -/
theorem IsLegal.isOrdered (hg : g.IsLegal) : g.IsOrdered :=
  ⟨hg.isListed, hg.isAcyclic, hg.extendsNoInterface⟩

theorem IsOrdered.isRooted (hg : g.IsOrdered) : g.IsRooted :=
  isRooted_of_isListed hg.isListed

/-! ## Two classes that can be used as each other -/

/-- Whatever links are followed, each is a link. -/
theorem IsLink.of_followed {followInterfaces : Bool} {a b : ClassName}
    (h : g.IsLink followInterfaces a b) : g.IsLink true a b := by
  obtain ⟨e, hres, hmem⟩ := h
  refine ⟨e, hres, ?_⟩
  cases followInterfaces with
  | true => exact hmem
  | false => exact List.mem_append_left _ (by simpa [links] using hmem)

/-- The root has no links. -/
theorem IsRooted.not_isLink_object (hg : g.IsRooted) {followInterfaces : Bool} {b : ClassName} :
    ¬ g.IsLink followInterfaces .object b := by
  rintro ⟨e, hres, hmem⟩
  obtain rfl : ClassEntry.root = e := Option.some.inj (hg.root.symm.trans hres)
  simp [links, ClassEntry.root] at hmem

/-- Only the root itself is above the root. -/
theorem IsRooted.eq_object_of_isAssignable (hg : g.IsRooted) {c : ClassName}
    (h : g.isAssignable .object c = true) : c = .object := by
  rcases isAssignable_iff.mp h with rfl | hpath
  · rfl
  · rcases ReflTransGen.cases_head hpath with rfl | ⟨b, hlink, _⟩
    · rfl
    · exact absurd hlink hg.not_isLink_object

/-- Without cycles, classes that can be used as each other are the same. -/
theorem IsOrdered.isAssignable_antisymm (hg : g.IsOrdered) {a b : ClassName}
    (hab : g.isAssignable a b = true) (hba : g.isAssignable b a = true) : a = b := by
  rcases isAssignable_iff.mp hab with rfl | hup
  · exact hg.isRooted.eq_object_of_isAssignable hba
  rcases isAssignable_iff.mp hba with rfl | hdown
  · exact (hg.isRooted.eq_object_of_isAssignable hab).symm
  have hup : ReflTransGen (g.IsLink true) a b :=
    ReflTransGen.mono (fun _ _ => IsLink.of_followed) _ _ hup
  have hdown : ReflTransGen (g.IsLink true) b a :=
    ReflTransGen.mono (fun _ _ => IsLink.of_followed) _ _ hdown
  rcases reflTransGen_iff_eq_or_transGen.mp hup with heq | htrans
  · exact heq.symm
  · -- Up and down again would be a cycle.
    exact absurd (htrans.trans_left hdown) (hg.isAcyclic a)

/-! ## What stands above a class -/

/-- Nothing extends an interface, not even an interface. -/
theorem IsOrdered.isInterface_of_extends (hg : g.IsOrdered) {a c : ClassName}
    (h : TransGen g.Extends a c) : g.isInterface c = false := by
  have hstep : ∀ b c, g.Extends b c → g.isInterface c = false := by
    intro b c hext
    cases hb : g.isInterface b with
    | false => exact hg.extendsNoInterface b c hb hext
    | true =>
        have hsuper := hg.isRooted.superclass_interface b hb
        obtain rfl : ClassName.object = c := Option.some.inj (hsuper.symm.trans hext)
        exact hg.isRooted.isInterface_object
  obtain ⟨b, _, hext⟩ := TransGen.tail'_iff.mp h
  exact hstep b c hext

/-- The nearest common ancestor is one of the two classes or no interface. -/
theorem IsOrdered.eq_or_isInterface_nearestCommonAncestor (hg : g.IsOrdered) {a b r : ClassName}
    (h : g.nearestCommonAncestor a b = .ok r) :
    r = a ∨ r = b ∨ g.isInterface r = false := by
  rcases nearestCommonAncestor_cases h with
    ⟨_, hr⟩ | ⟨_, _, hr⟩ | ⟨_, _, ⟨_, hr⟩ | hr⟩
  · exact Or.inl hr
  · exact Or.inr (Or.inl hr)
  · exact Or.inr (Or.inr (hr ▸ hg.isRooted.isInterface_object))
  · refine Or.inr (Or.inr ?_)
    cases hfind : (g.superclasses a).find? fun c => g.isAssignable b c with
    | none =>
        rw [hr, hfind]
        exact hg.isRooted.isInterface_object
    | some c =>
        obtain rfl : r = c := by rw [hr, hfind]; rfl
        exact hg.isInterface_of_extends (mem_superclasses_iff.mp (List.mem_of_find?_eq_some hfind))

/-- Of two classes that are no interfaces, the nearest common ancestor is none. -/
theorem IsOrdered.isInterface_nearestCommonAncestor (hg : g.IsOrdered) {a b r : ClassName}
    (ha : g.isInterface a = false) (hb : g.isInterface b = false)
    (h : g.nearestCommonAncestor a b = .ok r) : g.isInterface r = false := by
  rcases hg.eq_or_isInterface_nearestCommonAncestor h with rfl | rfl | hr
  · exact ha
  · exact hb
  · exact hr

/-- So it is of two classes of which neither can be used as the other. -/
theorem IsOrdered.isInterface_of_incomparable (hg : g.IsOrdered) {a b r : ClassName}
    (hab : ¬ g.isAssignable a b = true) (hba : ¬ g.isAssignable b a = true)
    (h : g.nearestCommonAncestor a b = .ok r) : g.isInterface r = false := by
  obtain ⟨har, hbr⟩ := isAssignable_nearestCommonAncestor h
  rcases hg.eq_or_isInterface_nearestCommonAncestor h with rfl | rfl | hr
  · exact absurd hbr hba
  · exact absurd har hab
  · exact hr

/-! ## From either side -/

/-- Where one class can be used as the other, that other one is the ancestor, from
whichever side it is searched. -/
theorem IsOrdered.nearestCommonAncestor_of_isAssignable (hg : g.IsOrdered) {a b r : ClassName}
    (hba : g.isAssignable b a = true)
    (h : g.nearestCommonAncestor a b = .ok r ∨ g.nearestCommonAncestor b a = .ok r) : r = a := by
  rcases h with h | h
  · exact eq_left_of_nearestCommonAncestor h hba
  · cases hab : g.isAssignable a b with
    | true => exact (eq_left_of_nearestCommonAncestor h hab).trans (hg.isAssignable_antisymm hba hab)
    | false => exact eq_right_of_nearestCommonAncestor h hab hba

/-- The nearest common ancestor is the same from both sides. -/
theorem IsOrdered.nearestCommonAncestor_eq (hg : g.IsOrdered) {a b r r' : ClassName}
    (h : g.nearestCommonAncestor a b = .ok r) (h' : g.nearestCommonAncestor b a = .ok r') :
    r = r' := by
  by_cases hba : g.isAssignable b a = true
  · rw [hg.nearestCommonAncestor_of_isAssignable hba (Or.inl h),
      hg.nearestCommonAncestor_of_isAssignable hba (Or.inr h')]
  by_cases hab : g.isAssignable a b = true
  · rw [hg.nearestCommonAncestor_of_isAssignable hab (Or.inr h),
      hg.nearestCommonAncestor_of_isAssignable hab (Or.inl h')]
  -- Neither is the ancestor itself, so both answers are no interfaces, and each of them
  -- lies below the other as the nearest one.
  obtain ⟨har, hbr⟩ := isAssignable_nearestCommonAncestor h
  obtain ⟨hbr', har'⟩ := isAssignable_nearestCommonAncestor h'
  have hr := hg.isInterface_of_incomparable hab hba h
  have hr' := hg.isInterface_of_incomparable hba hab h'
  exact hg.isAssignable_antisymm (hg.isRooted.isAssignable_of_common h hr' har' hbr')
    (hg.isRooted.isAssignable_of_common h' hr hbr har)

end ClassGraft.ClassGraph
