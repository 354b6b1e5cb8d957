import ClassGraft.Proofs.Verification.Joins
import ClassGraft.Proofs.Verification.Symmetry

/-!
# Where a join can be used for what was joined

What two types have in common should be able to hold both, and what two slots merge to
should be of use where either was. Both laws have their limits.

The strict comparison looks at declarations. A join may name a class that is not declared,
as the superclass of two that are, and types may name such classes themselves. Then the
comparison is refused, whatever the join was. The first statement says that nothing else
stands in the way.

Null joins with a primitive at the primitive, and no primitive accepts null. The second
statement says that in a legal graph this is the one pair of slots for which merging gives
a type that does not accept them.
-/

namespace ClassGraft

open Relation
open RefType (ofDepth)

namespace ClassGraph

variable {g : ClassGraph}

/-! ## Common supertypes -/

/-- The common supertype of two types can hold each of them exactly if the graph can compare
the two: where they are different classes at one depth, both are declared. -/
theorem isAssignableFrom_commonSupertype_iff {a b r : VerificationType}
    (h : g.commonSupertype a b = .ok r) :
    (g.isAssignableFrom r a = true ↔ g.Compares r a) ∧
      (g.isAssignableFrom r b = true ↔ g.Compares r b) := by
  have hself : ∀ t : VerificationType, g.isAssignableFrom t t = true ↔ g.Compares t t := fun t =>
    iff_of_true (isAssignableFrom_self t) (compares_self t)
  have hnull : ∀ t : VerificationType, g.isAssignableFrom t .null = true ↔ g.Compares t .null :=
    fun t => iff_of_true (isAssignableFrom_null t) (fun n c d _ hd => by cases hd)
  -- Either one of the two is the answer, or two references are joined.
  rcases commonSupertype_cases h with
    ⟨rfl | rfl, rfl⟩ | ⟨rfl, rfl⟩ | ⟨x, y, z, rfl, rfl, hjoin, rfl⟩
  · exact ⟨hself _, hself _⟩
  · exact ⟨hself _, hnull _⟩
  · exact ⟨hnull _, hself _⟩
  · exact isAssignableFrom_join_iff_compares hjoin

end ClassGraph

namespace Pond

/-- Ducks and swans have birds in common, which are not declared: birds can hold neither. -/
theorem isAssignableFrom_birds_iff :
    let birds : VerificationType := .object bird
    graph.commonSupertype (.object duck) (.object swan) = .ok birds ∧
      (graph.isAssignableFrom birds (.object duck) = true ↔
        graph.Compares birds (.object duck)) ∧
      (graph.isAssignableFrom birds (.object swan) = true ↔
        graph.Compares birds (.object swan)) ∧
      ¬ graph.Compares birds (.object duck) := by
  intro birds
  have hjoin : graph.commonSupertype (.object duck) (.object swan) = .ok birds :=
    commonSupertype_ducks_swans 0
  obtain ⟨hduck, hswan⟩ := ClassGraph.isAssignableFrom_commonSupertype_iff hjoin
  refine ⟨hjoin, hduck, hswan, ?_⟩
  intro hcompares
  exact absurd (hcompares 0 bird duck rfl rfl (by decide)).1 (by decide)

/-- A common supertype need not be able to hold what it is a supertype of, if the listing
leaves a superclass undeclared. -/
theorem not_isAssignableFrom_commonSupertype :
    ¬ ∀ g : ClassGraph, (∃ listing, ClassGraph.ofListing listing = .ok g) →
      (∀ a, ¬ TransGen g.Extends a a) →
        ∀ a b r, g.commonSupertype a b = .ok r →
          g.isAssignableFrom r a = true ∧ g.isAssignableFrom r b = true := by
  intro hclaim
  have hchains : ∀ a, ¬ TransGen graph.Extends a a := fun a hcycle =>
    isOrdered_graph.isAcyclic a
      (TransGen.mono (fun _ _ => ClassGraph.IsLink.of_extends) _ _ hcycle)
  obtain ⟨hduck, _⟩ :=
    hclaim graph isOrdered_graph.isListed hchains _ _ _ (commonSupertype_ducks_swans 0)
  have hunheld : graph.isAssignableFrom (.object bird) (.object duck) = false := by decide
  rw [show VerificationType.reference (ofDepth 0 bird) = .object bird from rfl,
    show VerificationType.reference (ofDepth 0 duck) = .object duck from rfl, hunheld] at hduck
  cases hduck

end Pond

namespace ClassGraph

variable {g : ClassGraph}

/-! ## Merged slots -/

/-- A slot can be used as itself. -/
theorem isSubtypeOf_self (v : Slot) : g.isSubtypeOf v v = true := by
  cases v with
  | uninitialized => rfl
  | typed t => cases t <;> simp [isSubtypeOf, isAssignableFrom_self]

/-- Null can be used as null and as every reference, and as no primitive. -/
theorem isSubtypeOf_null_iff (t : VerificationType) :
    g.isSubtypeOf (.typed .null) (.typed t) = true ↔ t.isReference = true := by
  cases t <;> simp [isSubtypeOf, VerificationType.isReference]

/-- What two slots of a legal graph merge to accepts each of them, except that a primitive
does not accept the null that it was merged with. -/
theorem IsLegal.isSubtypeOf_mergeSlots_iff (hg : g.IsLegal) {v w : Slot} {r : VerificationType}
    (hv : g.Declares v.classes) (hw : g.Declares w.classes)
    (h : g.mergeSlots v w = .ok (.typed r)) :
    (g.isSubtypeOf v (.typed r) = true ↔ (v = .typed .null → r.isReference = true)) ∧
      (g.isSubtypeOf w (.typed r) = true ↔ (w = .typed .null → r.isReference = true)) := by
  have hself : ∀ t : VerificationType, g.isSubtypeOf (.typed t) (.typed t) = true ↔
      (Slot.typed t = .typed .null → t.isReference = true) := by
    intro t
    refine iff_of_true (isSubtypeOf_self _) ?_
    rintro ⟨⟩
    rfl
  have hnull : ∀ t : VerificationType, g.isSubtypeOf (.typed .null) (.typed t) = true ↔
      (Slot.typed .null = .typed .null → t.isReference = true) := by
    intro t
    rw [isSubtypeOf_null_iff]
    exact ⟨fun ht _ => ht, fun ht => ht rfl⟩
  obtain ⟨s, t, rfl, rfl, hjoin⟩ := commonSupertype_of_mergeSlots h
  rcases commonSupertype_cases hjoin with
    ⟨rfl | rfl, rfl⟩ | ⟨rfl, rfl⟩ | ⟨x, y, z, rfl, rfl, hrefs, rfl⟩
  · exact ⟨hself _, hself _⟩
  · exact ⟨hself _, hnull _⟩
  · exact ⟨hnull _, hself _⟩
  · -- Two references are accepted by their join, since it accepts itself.
    obtain ⟨join, hjoin', _, haccepts⟩ := hg.exists_commonRefSupertype hv hw
    obtain rfl : join = z := Except.ok.inj (hjoin'.symm.trans hrefs)
    obtain ⟨hx, hy⟩ := (haccepts join).mp (isSubtypeOf_self _)
    exact ⟨iff_of_true hx fun _ => rfl, iff_of_true hy fun _ => rfl⟩

end ClassGraph

namespace Zoo

/-- An integer and null merge to an integer, which accepts the one and not the other. -/
theorem isSubtypeOf_mergeSlots_null :
    let integer : Slot := .typed .integer
    let null : Slot := .typed .null
    graph.mergeSlots integer null = .ok integer ∧
      (graph.isSubtypeOf integer integer = true ↔
        (integer = null → VerificationType.integer.isReference = true)) ∧
      (graph.isSubtypeOf null integer = true ↔
        (null = null → VerificationType.integer.isReference = true)) := by
  intro integer null
  have hmerge : graph.mergeSlots integer null = .ok integer := by decide
  exact ⟨hmerge, isLegal_graph.isSubtypeOf_mergeSlots_iff (by decide) (by decide) hmerge⟩

/-- Merging may give a type that one of the merged slots cannot be used as. -/
theorem not_isSubtypeOf_mergeSlots :
    ¬ ∀ g : ClassGraph, g.IsLegal → ∀ v w r, g.Declares v.classes → g.Declares w.classes →
      g.mergeSlots v w = .ok (.typed r) →
        g.isSubtypeOf v (.typed r) = true ∧ g.isSubtypeOf w (.typed r) = true := by
  intro hclaim
  have hmerge : graph.mergeSlots (.typed .null) (.typed .integer) = .ok (.typed .integer) := by
    decide
  obtain ⟨hnull, _⟩ := hclaim graph isLegal_graph _ _ _ (by decide) (by decide) hmerge
  exact absurd hnull (by decide)

end Zoo

end ClassGraft
