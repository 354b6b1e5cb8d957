import ClassGraft.Proofs.Hierarchy.Order

/-!
# Where the links of interfaces may be left out

`ClassGraph.isAssignable` follows the links of interfaces only towards a class that is declared
as an interface. The search without this short cut is `ClassGraph.findsAbove`: it follows every
link, whatever it looks for.

In the graph of a listing the two searches agree about every declared class, provided that what
is listed among interfaces is not declared as something else: interfaces lead to interfaces and
to the root only, so no path to another class goes through one. An undeclared class counts as
no interface. Such a class may be named in a list of interfaces, and there the short cut shows:
it is found by superclasses alone.
-/

namespace ClassGraft

open Relation

namespace ClassGraph

variable {g : ClassGraph}

/-- Is `super` the root, or found above `sub` along links of every kind? -/
def findsAbove (g : ClassGraph) (sub super : ClassName) : Bool :=
  super = .object || g.reaches true super [] [sub]

/-- Every declared name in a list of interfaces is declared as an interface. -/
def ListsInterfaces (g : ClassGraph) : Prop :=
  ∀ e ∈ g.entries, ∀ i ∈ e.interfaces, (g.resolve i).isSome → g.isInterface i = true

instance (g : ClassGraph) : Decidable g.ListsInterfaces :=
  inferInstanceAs (Decidable (∀ e ∈ g.entries, ∀ i ∈ e.interfaces,
    (g.resolve i).isSome → g.isInterface i = true))

theorem findsAbove_iff {sub super : ClassName} :
    g.findsAbove sub super = true ↔
      super = .object ∨ ReflTransGen (g.IsLink true) sub super := by
  simp [findsAbove, reaches_iff]

/-! ## Paths to a declared class -/

/-- A link to a declared class that is no interface is a superclass. -/
theorem ListsInterfaces.extends_of_isLink (hlists : g.ListsInterfaces) {a c : ClassName}
    (hc : (g.resolve c).isSome) (hclass : g.isInterface c = false) (h : g.IsLink true a c) :
    g.Extends a c := by
  rcases isLink_true_iff.mp h with hext | ⟨e, hres, hlisted⟩
  · exact hext
  · have hint := hlists e (mem_of_resolve hres) c hlisted hc
    rw [hclass] at hint
    cases hint

/-- Every path to a declared class other than the root that is no interface goes along
superclasses. -/
theorem ListsInterfaces.extends_of_path (hlists : g.ListsInterfaces) (hg : g.IsRooted)
    {a c : ClassName} (hpath : ReflTransGen (g.IsLink true) a c) (hc : (g.resolve c).isSome)
    (hclass : g.isInterface c = false) (hne : c ≠ .object) : ReflTransGen g.Extends a c := by
  induction hpath with
  | refl => exact .refl
  | @tail b c _ hlink ih =>
      have hext : g.Extends b c := hlists.extends_of_isLink hc hclass hlink
      -- The class before the last one is of the same kind, so that the path to it is one too.
      have hb : g.isInterface b = false := by
        rw [Bool.eq_false_iff]
        intro hint
        have hsuper := hg.superclass_interface b hint
        exact hne (Option.some.inj (hext.symm.trans hsuper))
      have hbne : b ≠ .object := by
        rintro rfl
        exact hg.not_isLink_object hlink
      exact (ih hlink.isSome_resolve hb hbne).tail hext

/-! ## Both searches -/

/-- Towards a declared class the short cut changes nothing. -/
theorem ListsInterfaces.isAssignable_eq_findsAbove (hlists : g.ListsInterfaces) (hg : g.IsRooted)
    {sub super : ClassName} (hsuper : (g.resolve super).isSome) :
    g.isAssignable sub super = g.findsAbove sub super := by
  rw [Bool.eq_iff_iff, findsAbove_iff]
  cases hint : g.isInterface super with
  | true => rw [isAssignable_iff, hint]
  | false =>
      rw [isAssignable_class_iff hint]
      constructor
      · rintro (rfl | hpath)
        · exact Or.inl rfl
        · exact Or.inr (path_of_extends hpath)
      · rintro (rfl | hpath)
        · exact Or.inl rfl
        · by_cases hne : super = .object
          · exact Or.inl hne
          · exact Or.inr (hlists.extends_of_path hg hpath hsuper hint hne)

/-- An undeclared class is found along superclasses. -/
theorem IsRooted.isAssignable_undeclared_iff (hg : g.IsRooted) {sub super : ClassName}
    (hsuper : g.resolve super = none) :
    g.isAssignable sub super = true ↔ ReflTransGen g.Extends sub super := by
  have hint : g.isInterface super = false := by simp [isInterface, hsuper]
  have hne : super ≠ .object := by
    rintro rfl
    rw [hg.root] at hsuper
    cases hsuper
  rw [isAssignable_class_iff hint, or_iff_right hne]

/-- Leaving the links of interfaces out changes the answer about undeclared classes only. In the
graph of a listing in which no interface list names a declared class that is no interface, the
search answers as the one that follows every link, except that an undeclared class has to be
reached along superclasses. -/
theorem isAssignable_iff_findsAbove (hlisted : ∃ listing, ofListing listing = .ok g)
    (hlists : g.ListsInterfaces) (sub super : ClassName) :
    (g.isAssignable sub super = true ↔ g.findsAbove sub super = true ∧
      (g.resolve super = none → ReflTransGen g.Extends sub super)) ∧
    (g.findsAbove sub super = true ↔
      super = .object ∨ ReflTransGen (g.IsLink true) sub super) := by
  have hg := isRooted_of_isListed hlisted
  refine ⟨?_, findsAbove_iff⟩
  cases hsuper : g.resolve super with
  | some e =>
      have hdeclared : (g.resolve super).isSome := by rw [hsuper]; rfl
      rw [hlists.isAssignable_eq_findsAbove hg hdeclared]
      simp
  | none =>
      rw [hg.isAssignable_undeclared_iff hsuper]
      constructor
      · intro hpath
        have habove : g.findsAbove sub super = true := findsAbove_iff.mpr
          (Or.inr (path_of_extends hpath))
        exact ⟨habove, fun _ => hpath⟩
      · rintro ⟨_, hpath⟩
        exact hpath rfl

end ClassGraph

/-! ## A class without its relatives

A listing of one class, which declares neither what the class extends nor what it implements. -/

namespace Stray

open Zoo (dog pet)

/-- The listing of the hierarchy. -/
def listing : Text := Text.ofString "class Dog extends Animal implements Pet"

def animal : ClassName := .literal "Animal"

/-- What the listing says about dogs. -/
def entry : ClassEntry := { ClassEntry.below animal dog with interfaces := [pet] }

/-- The graph of the hierarchy. -/
def graph : ClassGraph := ⟨ClassGraph.libraryTypes ++ [entry]⟩

theorem isListed_graph : ∃ listing, ClassGraph.ofListing listing = .ok graph :=
  ⟨listing, rfl⟩

theorem listsInterfaces_graph : graph.ListsInterfaces := by decide

theorem resolve_dog : graph.resolve dog = some entry := by decide

theorem extends_animal : graph.Extends dog animal :=
  ClassGraph.extends_iff.mpr ⟨entry, resolve_dog, rfl⟩

theorem isLink_pet : graph.IsLink true dog pet :=
  ClassGraph.isLink_true_iff.mpr (Or.inr ⟨entry, resolve_dog, List.mem_singleton.mpr rfl⟩)

/-- Along superclasses, dogs lead to animals and no further. -/
theorem not_extends_pet : ¬ ReflTransGen graph.Extends dog pet := by
  intro hpath
  rcases ReflTransGen.cases_head hpath with heq | ⟨b, hext, hrest⟩
  · exact absurd heq (by decide)
  · obtain rfl : animal = b := Option.some.inj (extends_animal.symm.trans hext)
    rcases ReflTransGen.cases_head hrest with heq | ⟨c, hext', _⟩
    · exact absurd heq (by decide)
    · exact absurd (ClassGraph.isSome_resolve_of_extends hext') (by decide)

/-- Neither the pet that a dog is nor the animal is declared: the one is missed, since dogs have
it as an interface, and the other is found. -/
theorem isAssignable_pet_animal :
    graph.ListsInterfaces ∧ graph.resolve pet = none ∧ graph.resolve animal = none ∧
      graph.findsAbove dog pet = true ∧ graph.isAssignable dog pet = false ∧
      graph.findsAbove dog animal = true ∧ graph.isAssignable dog animal = true := by
  have hpet : graph.resolve pet = none := by decide
  obtain ⟨hmissed, habovePet⟩ :=
    ClassGraph.isAssignable_iff_findsAbove isListed_graph listsInterfaces_graph dog pet
  obtain ⟨hfound, haboveAnimal⟩ :=
    ClassGraph.isAssignable_iff_findsAbove isListed_graph listsInterfaces_graph dog animal
  have hanimal : graph.findsAbove dog animal = true :=
    haboveAnimal.mpr (Or.inr (.single (.of_extends extends_animal)))
  refine ⟨listsInterfaces_graph, hpet, by decide, habovePet.mpr (Or.inr (.single isLink_pet)), ?_,
    hanimal, hfound.mpr ⟨hanimal, fun _ => .single extends_animal⟩⟩
  rw [Bool.eq_false_iff]
  intro h
  exact not_extends_pet ((hmissed.mp h).2 hpet)

/-- The short cut changes the answer about a class that is only named among interfaces. -/
theorem isAssignable_ne_findsAbove :
    ¬ ∀ g : ClassGraph, (∃ listing, ClassGraph.ofListing listing = .ok g) → g.ListsInterfaces →
      ∀ sub super, g.isAssignable sub super = g.findsAbove sub super := by
  intro hclaim
  have hsame := hclaim graph isListed_graph listsInterfaces_graph dog pet
  have habove : graph.findsAbove dog pet = true :=
    ClassGraph.findsAbove_iff.mpr (Or.inr (.single isLink_pet))
  have hg := ClassGraph.isRooted_of_isListed isListed_graph
  rw [habove, hg.isAssignable_undeclared_iff (by decide)] at hsame
  exact not_extends_pet hsame

end Stray

end ClassGraft
