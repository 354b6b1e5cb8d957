import ClassGraft.Proofs.Hierarchy.Order
import ClassGraft.Proofs.Verification.Acceptance

/-!
# The common supertype is symmetric

Which of two types comes first makes no difference to what they have in common, nor to
the kind of refusal when there is nothing. Primitives and null need no look at the
graph, and arrays only one at their depths. Classes need that the nearest common
ancestor is the same from both sides, which it is in every graph without cycles whose
classes extend no interface, even where superclasses are undeclared.

A refusal for an undeclared class names the first one that is undeclared, so there the
order shows: the main statement says that both orders miss a class, not which one.
-/

namespace ClassGraft

open RefType (ofDepth)

namespace ClassGraph

variable {g : ClassGraph}

/-! ## Classes -/

/-- Two different classes of which one is undeclared have no join; the first one that is
undeclared is named. -/
theorem commonClass_of_undeclared {c d : ClassName} (hcd : c ≠ d)
    (h : ¬ ((g.resolve c).isSome ∧ (g.resolve d).isSome)) :
    g.commonClass c d
      = .error (.missingClass (if (g.resolve c).isSome then d else c)) := by
  unfold commonClass nearestCommonAncestor
  rw [if_neg hcd]
  cases hc : g.resolve c with
  | none => rfl
  | some entryC =>
      cases hd : g.resolve d with
      | none => rfl
      | some entryD => simp [hc, hd] at h

/-- Two classes have the same join from both sides, or both sides miss a class. -/
theorem IsOrdered.commonClass_cases (hg : g.IsOrdered) (c d : ClassName) :
    (∃ r, g.commonClass c d = .ok r ∧ g.commonClass d c = .ok r) ∨
      ∃ m n, g.commonClass c d = .error (.missingClass m) ∧
        g.commonClass d c = .error (.missingClass n) := by
  by_cases hcd : c = d
  · subst hcd
    exact Or.inl ⟨c, by simp [commonClass], by simp [commonClass]⟩
  by_cases hdeclared : (g.resolve c).isSome ∧ (g.resolve d).isSome
  · obtain ⟨r, hr⟩ := exists_nearestCommonAncestor_iff.mpr hdeclared
    obtain ⟨r', hr'⟩ := exists_nearestCommonAncestor_iff.mpr hdeclared.symm
    obtain rfl := hg.nearestCommonAncestor_eq hr hr'
    exact Or.inl ⟨r, commonClass_eq_ok_iff.mpr (Or.inr ⟨hcd, hr⟩),
      commonClass_eq_ok_iff.mpr (Or.inr ⟨Ne.symm hcd, hr'⟩)⟩
  · exact Or.inr ⟨_, _, commonClass_of_undeclared hcd hdeclared,
      commonClass_of_undeclared (Ne.symm hcd) fun h => hdeclared h.symm⟩

/-! ## References -/

/-- So do two reference types. -/
theorem IsOrdered.commonRefSupertype_symm (hg : g.IsOrdered) (a b : RefType ClassName) :
    (∃ r, g.commonRefSupertype a b = .ok r ∧ g.commonRefSupertype b a = .ok r) ∨
      ∃ m n, g.commonRefSupertype a b = .error (.missingClass m) ∧
        g.commonRefSupertype b a = .error (.missingClass n) := by
  rcases commonRefSupertype_cases g a b with
    ⟨rfl, hself⟩ | ⟨n, c, d, hcd, rfl, rfl, hclasses⟩ | ⟨hab, hshape, hobjects⟩
  · exact Or.inl ⟨a, hself, hself⟩
  · rw [hclasses, commonRefSupertype_ofDepth]
    rcases hg.commonClass_cases c d with ⟨r, hr, hr'⟩ | ⟨m, m', hm, hm'⟩
    · exact Or.inl ⟨ofDepth n r, by rw [hr]; rfl, by rw [hr']; rfl⟩
    · exact Or.inr ⟨m, m', by rw [hm]; rfl, by rw [hm']; rfl⟩
  · -- The depth that both sides have is the same from both sides.
    have hshape' : ∀ n c d, b = ofDepth n c → a ≠ ofDepth n d := by
      intro n c d hbc had
      exact hshape n d c had hbc
    refine Or.inl ⟨_, hobjects, ?_⟩
    rw [commonRefSupertype_of_depth_ne (Ne.symm hab) hshape', Nat.min_comm]

/-- Where both orders succeed, they agree. -/
theorem IsOrdered.commonRefSupertype_comm (hg : g.IsOrdered) {a b r s : RefType ClassName}
    (hr : g.commonRefSupertype a b = .ok r) (hs : g.commonRefSupertype b a = .ok s) : r = s := by
  rcases hg.commonRefSupertype_symm a b with ⟨j, hj, hj'⟩ | ⟨m, n, hm, _⟩
  · exact (Except.ok.inj (hr.symm.trans hj)).trans (Except.ok.inj (hj'.symm.trans hs))
  · rw [hm] at hr
    cases hr

/-! ## Types -/

/-- The common supertype of two types is the same in both orders. Where there is none,
both orders find the types incompatible, or both miss a class. -/
theorem IsOrdered.commonSupertype_symm (hg : g.IsOrdered) (a b : VerificationType) :
    (∃ r, g.commonSupertype a b = .ok r ∧ g.commonSupertype b a = .ok r) ∨
      (g.commonSupertype a b = .error (.incompatibleTypes a b) ∧
        g.commonSupertype b a = .error (.incompatibleTypes b a)) ∨
      ∃ m n, g.commonSupertype a b = .error (.missingClass m) ∧
        g.commonSupertype b a = .error (.missingClass n) := by
  by_cases hab : a = b
  · subst hab
    exact Or.inl ⟨a, by simp [commonSupertype], by simp [commonSupertype]⟩
  by_cases hb : b = .null
  · subst hb
    exact Or.inl ⟨a, by simp [commonSupertype], by simp [commonSupertype, hab]⟩
  by_cases ha : a = .null
  · subst ha
    exact Or.inl ⟨b, by simp [commonSupertype, hb], by simp [commonSupertype]⟩
  by_cases href : ∃ x y, a = .reference x ∧ b = .reference y
  · obtain ⟨x, y, rfl, rfl⟩ := href
    have hxy : g.commonSupertype (.reference x) (.reference y)
        = (g.commonRefSupertype x y).map .reference := by
      simp [commonSupertype, hab]
    have hyx : g.commonSupertype (.reference y) (.reference x)
        = (g.commonRefSupertype y x).map .reference := by
      simp [commonSupertype, Ne.symm hab]
    rw [hxy, hyx]
    rcases hg.commonRefSupertype_symm x y with ⟨r, hr, hr'⟩ | ⟨m, n, hm, hn⟩
    · exact Or.inl ⟨.reference r, by rw [hr]; rfl, by rw [hr']; rfl⟩
    · exact Or.inr (Or.inr ⟨m, n, by rw [hm]; rfl, by rw [hn]; rfl⟩)
  · have hshape : ∀ x y, a = .reference x → b ≠ .reference y := by
      intro x y hax hby
      exact href ⟨x, y, hax, hby⟩
    have hshape' : ∀ x y, b = .reference x → a ≠ .reference y := by
      intro x y hbx hay
      exact href ⟨y, x, hay, hbx⟩
    exact Or.inr (Or.inl ⟨commonSupertype_incompatible hab ha hb hshape,
      commonSupertype_incompatible (Ne.symm hab) hb ha hshape'⟩)

end ClassGraph

/-! ## A hierarchy that is left open

Two classes below one that the listing does not declare. -/

namespace Pond

/-- The listing of the hierarchy. -/
def listing : Text := Text.ofString "class Duck extends Bird\nclass Swan extends Bird"

def bird : ClassName := .literal "Bird"

def duck : ClassName := .literal "Duck"

def swan : ClassName := .literal "Swan"

/-- The graph of the hierarchy. -/
def graph : ClassGraph :=
  ⟨ClassGraph.libraryTypes ++ [.below bird duck, .below bird swan]⟩

/-- The names of the graph, each after all that it links to. -/
def names : List ClassName :=
  [.object, .cloneable, .serializable, .charSequence, .comparable, .string, .number, .integer,
    bird, duck, swan]

theorem isOrdered_graph : graph.IsOrdered := by
  have hlisting : ClassGraph.ofListing listing = .ok graph := by rfl
  have hrank : ∀ e ∈ graph.entries, ∀ n ∈ ClassGraph.links true e,
      names.idxOf n < names.idxOf e.name := by decide
  have hsupers : ∀ e ∈ graph.entries, ∀ b ∈ e.superclass, graph.isInterface b = false := by
    decide
  refine ⟨⟨listing, hlisting⟩, ClassGraph.isAcyclic_of_rank hrank, ?_⟩
  intro a b _ hab
  obtain ⟨e, hres, hsuper⟩ := ClassGraph.extends_iff.mp hab
  exact hsupers e (ClassGraph.mem_of_resolve hres) b hsuper

/-- Of ducks and swans, neither can be used as the other: above both there are only birds,
of which the graph knows nothing. -/
theorem isAssignable_eq_false {a b : ClassName} (ha : graph.resolve a = some (.below bird a))
    (hb : b ≠ .object ∧ b ≠ bird ∧ graph.isInterface b = false) (hab : a ≠ b) :
    graph.isAssignable a b = false := by
  have hbird : graph.resolve bird = none := by decide
  have hother : bird ≠ a := by
    rintro rfl
    rw [hbird] at ha
    cases ha
  rw [ClassGraph.isAssignable, hb.2.2, ClassGraph.reaches_of_declared hab List.not_mem_nil ha]
  show (_ || graph.reaches false b [a] [bird]) = false
  rw [ClassGraph.reaches_of_undeclared (Ne.symm hb.2.1) (by simpa using hother) hbird]
  simp [ClassGraph.reaches, hb.1]

/-- Ducks and swans have the undeclared birds in common. -/
theorem commonClass_duck_swan : graph.commonClass duck swan = .ok bird := by
  have hduck : graph.resolve duck = some (.below bird duck) := by decide
  have hswan : graph.resolve swan = some (.below bird swan) := by decide
  have hup : graph.isAssignable swan bird = true :=
    ClassGraph.isAssignable_of_extends (.single (ClassGraph.extends_iff.mpr ⟨_, hswan, rfl⟩))
  have hchain : graph.superclasses duck = [bird] :=
    ClassGraph.chainFrom_of_undeclared List.not_mem_nil (by decide)
  rw [ClassGraph.commonClass_eq_ok_iff]
  refine Or.inr ⟨by decide, ?_⟩
  rw [ClassGraph.nearestCommonAncestor, hduck, hswan]
  simp only [isAssignable_eq_false hduck (by decide : swan ≠ .object ∧ _) (by decide),
    isAssignable_eq_false hswan (by decide : duck ≠ .object ∧ _) (by decide), hchain, hup,
    List.find?_cons_of_pos]
  rfl

/-- So have rows of them. -/
theorem commonSupertype_ducks_swans (n : Nat) :
    graph.commonSupertype (.reference (ofDepth n duck)) (.reference (ofDepth n swan))
      = .ok (.reference (ofDepth n bird)) := by
  rw [ClassGraph.commonSupertype_reference, ClassGraph.commonRefSupertype_ofDepth,
    commonClass_duck_swan]
  rfl

/-- Rows of ducks and of swans have rows of birds in common, in both orders. -/
theorem commonSupertype_symm_rows :
    let ducks : VerificationType := .reference (.objectArray 0 duck)
    let swans : VerificationType := .reference (.objectArray 0 swan)
    let birds : VerificationType := .reference (.objectArray 0 bird)
    graph.commonSupertype ducks swans = .ok birds ∧ graph.commonSupertype swans ducks = .ok birds := by
  intro ducks swans birds
  have hrows : graph.commonSupertype ducks swans = .ok birds := commonSupertype_ducks_swans 1
  rcases isOrdered_graph.commonSupertype_symm ducks swans with
    ⟨r, hr, hr'⟩ | ⟨hnone, _⟩ | ⟨_, _, hnone, _⟩
  · obtain rfl : birds = r := Except.ok.inj (hrows.symm.trans hr)
    exact ⟨hr, hr'⟩
  · rw [hrows] at hnone
    cases hnone
  · rw [hrows] at hnone
    cases hnone

end Pond

end ClassGraft
