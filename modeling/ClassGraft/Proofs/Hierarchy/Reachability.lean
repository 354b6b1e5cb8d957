import Mathlib.Logic.Relation
import Mathlib.Tactic.ByContra
import Mathlib.Tactic.Tauto
import ClassGraft.Hierarchy.Search

/-!
# What the search up the hierarchy finds

The search of `ClassGraph.reaches` keeps a list of names to visit and a list of
names it has left; the relation `IsLink` is one step of it, stated without
either list. The search answers the reflexive transitive closure of that step
exactly, on every graph, cycles and undeclared names included.

Soundness follows the run of the search. For completeness a failed search is
turned into a set of names that is closed under links and does not hold the
goal: what was visited, and the undeclared names it met, which lead nowhere.
-/

namespace ClassGraft.ClassGraph

open Relation

variable {g : ClassGraph} {followInterfaces : Bool} {goal : ClassName}

/-! ## One link -/

/-- The declared class `a` has a link to `b`, of the kinds that are followed. -/
def IsLink (g : ClassGraph) (followInterfaces : Bool) (a b : ClassName) : Prop :=
  ∃ e, g.resolve a = some e ∧ b ∈ links followInterfaces e

/-- `b` is the declared superclass of `a`. -/
def Extends (g : ClassGraph) (a b : ClassName) : Prop := g.superclass a = some b

theorem extends_iff {a b : ClassName} :
    g.Extends a b ↔ ∃ e, g.resolve a = some e ∧ e.superclass = some b := by
  simp [Extends, superclass, Option.bind_eq_some_iff]

/-- Where interfaces are not followed, a link is a superclass. -/
theorem isLink_false_iff {a b : ClassName} : g.IsLink false a b ↔ g.Extends a b := by
  simp [IsLink, extends_iff, links]

/-- Otherwise it is a superclass or a listed interface. -/
theorem isLink_true_iff {a b : ClassName} :
    g.IsLink true a b ↔ g.Extends a b ∨ ∃ e, g.resolve a = some e ∧ b ∈ e.interfaces := by
  simp only [IsLink, extends_iff, links, if_true, List.mem_append, Option.mem_toList]
  constructor
  · rintro ⟨e, hres, hsuper | hlisted⟩
    · exact Or.inl ⟨e, hres, hsuper⟩
    · exact Or.inr ⟨e, hres, hlisted⟩
  · rintro (⟨e, hres, hsuper⟩ | ⟨e, hres, hlisted⟩)
    · exact ⟨e, hres, Or.inl hsuper⟩
    · exact ⟨e, hres, Or.inr hlisted⟩

/-- Superclasses are followed whatever else is. -/
theorem IsLink.of_extends {a b : ClassName} (h : g.Extends a b) :
    g.IsLink followInterfaces a b := by
  obtain ⟨e, hres, hsuper⟩ := extends_iff.mp h
  exact ⟨e, hres, by simp [links, hsuper]⟩

/-- What a class extends, directly or not, is reached whatever else is followed. -/
theorem path_of_extends {a b : ClassName} (h : ReflTransGen g.Extends a b) :
    ReflTransGen (g.IsLink followInterfaces) a b :=
  ReflTransGen.mono (fun _ _ => IsLink.of_extends) _ _ h

/-- A class that leads anywhere is declared. -/
theorem IsLink.isSome_resolve {a b : ClassName} (h : g.IsLink followInterfaces a b) :
    (g.resolve a).isSome := by
  obtain ⟨e, hres, _⟩ := h
  rw [hres]
  rfl

theorem isSome_resolve_of_extends {a b : ClassName} (h : g.Extends a b) :
    (g.resolve a).isSome :=
  (isLink_false_iff.mpr h).isSome_resolve

/-- An undeclared class has no links. -/
theorem not_isLink_of_resolve_eq_none {a b : ClassName} (h : g.resolve a = none) :
    ¬ g.IsLink followInterfaces a b := by
  intro hlink
  have hsome := hlink.isSome_resolve
  rw [h] at hsome
  cases hsome

/-! ## The search -/

/-- A name that was left already is passed over. -/
theorem reaches_of_mem_seen {seen rest : List ClassName} {name : ClassName} (hne : name ≠ goal)
    (hseen : name ∈ seen) :
    g.reaches followInterfaces goal seen (name :: rest)
      = g.reaches followInterfaces goal seen rest := by
  rw [reaches, if_neg hne, dif_pos hseen]

/-- So is an undeclared one. -/
theorem reaches_of_undeclared {seen rest : List ClassName} {name : ClassName} (hne : name ≠ goal)
    (hseen : name ∉ seen) (hres : g.resolve name = none) :
    g.reaches followInterfaces goal seen (name :: rest)
      = g.reaches followInterfaces goal seen rest := by
  rw [reaches, if_neg hne, dif_neg hseen]
  split
  · rfl
  · next hsome => rw [hres] at hsome; cases hsome

/-- A declared name is left for its links. -/
theorem reaches_of_declared {seen rest : List ClassName} {name : ClassName} {e : ClassEntry}
    (hne : name ≠ goal) (hseen : name ∉ seen) (hres : g.resolve name = some e) :
    g.reaches followInterfaces goal seen (name :: rest)
      = g.reaches followInterfaces goal (name :: seen) (links followInterfaces e ++ rest) := by
  rw [reaches, if_neg hne, dif_neg hseen]
  split
  · next hnone => rw [hres] at hnone; cases hnone
  · next e' hres' =>
    obtain rfl : e = e' := Option.some.inj (hres.symm.trans hres')
    rfl

/-- What the search finds lies above one of the names it was to visit. -/
theorem exists_path_of_reaches {seen todo : List ClassName}
    (h : g.reaches followInterfaces goal seen todo = true) :
    ∃ name ∈ todo, ReflTransGen (g.IsLink followInterfaces) name goal := by
  induction seen, todo using reaches.induct g followInterfaces goal with
  | case1 seen => simp [reaches] at h
  | case2 seen rest => exact ⟨goal, by simp, .refl⟩
  | case3 seen name rest hne hseen ih =>
      rw [reaches_of_mem_seen hne hseen] at h
      obtain ⟨start, hmem, hpath⟩ := ih h
      exact ⟨start, List.mem_cons_of_mem _ hmem, hpath⟩
  | case4 seen name rest hne hseen hres ih =>
      rw [reaches_of_undeclared hne hseen hres] at h
      obtain ⟨start, hmem, hpath⟩ := ih h
      exact ⟨start, List.mem_cons_of_mem _ hmem, hpath⟩
  | case5 seen name rest hne hseen e hres hlt ih =>
      rw [reaches_of_declared hne hseen hres] at h
      obtain ⟨start, hmem, hpath⟩ := ih h
      rcases List.mem_append.mp hmem with hlink | hrest
      · -- The path goes on from a name that `name` links to.
        exact ⟨name, by simp, ReflTransGen.head ⟨e, hres, hlink⟩ hpath⟩
      · exact ⟨start, List.mem_cons_of_mem _ hrest, hpath⟩

/-- A name that the search has dealt with or will: it is listed, or it is
undeclared and not the goal. -/
def IsSettled (g : ClassGraph) (goal : ClassName) (listed : List ClassName)
    (name : ClassName) : Prop :=
  name ∈ listed ∨ (g.resolve name = none ∧ name ≠ goal)

/-- A name that is settled without its place in the list may be taken off it. -/
theorem IsSettled.drop {seen rest : List ClassName} {name x : ClassName}
    (hname : g.IsSettled goal (seen ++ rest) name)
    (h : g.IsSettled goal (seen ++ name :: rest) x) : g.IsSettled goal (seen ++ rest) x := by
  rcases h with hmem | hnone
  · rcases List.mem_append.mp hmem with hmem | hmem
    · exact Or.inl (List.mem_append_left _ hmem)
    · rcases List.mem_cons.mp hmem with rfl | hmem
      · exact hname
      · exact Or.inl (List.mem_append_right _ hmem)
  · exact Or.inr hnone

/-- No name that was left is the goal, and the links of each are settled. -/
def IsExplored (g : ClassGraph) (followInterfaces : Bool) (goal : ClassName)
    (seen todo : List ClassName) : Prop :=
  ∀ name ∈ seen, name ≠ goal ∧
    ∀ next, g.IsLink followInterfaces name next → g.IsSettled goal (seen ++ todo) next

/-- A list of names to visit may be replaced by one that settles as much. -/
theorem IsExplored.of_settled {seen todo todo' : List ClassName}
    (h : g.IsExplored followInterfaces goal seen todo)
    (hkeep : ∀ name, g.IsSettled goal (seen ++ todo) name → g.IsSettled goal (seen ++ todo') name) :
    g.IsExplored followInterfaces goal seen todo' := fun name hname =>
  ⟨(h name hname).1, fun next hlink => hkeep next ((h name hname).2 next hlink)⟩

/-- A failed search leaves a set of names that is closed under links, holds what
was seen and was to be visited, and does not hold the goal. -/
theorem exists_closed_of_not_reaches {seen todo : List ClassName}
    (hexplored : g.IsExplored followInterfaces goal seen todo)
    (h : g.reaches followInterfaces goal seen todo = false) :
    ∃ closed : ClassName → Prop,
      (∀ name, g.IsSettled goal (seen ++ todo) name → closed name) ∧ ¬ closed goal ∧
      ∀ name next, closed name → g.IsLink followInterfaces name next → closed next := by
  induction seen, todo using reaches.induct g followInterfaces goal with
  | case1 seen =>
      refine ⟨g.IsSettled goal seen, by simp, ?_, ?_⟩
      · rintro (hmem | ⟨_, hne⟩)
        · exact (hexplored goal hmem).1 rfl
        · exact hne rfl
      · rintro name next (hmem | ⟨hnone, _⟩) hlink
        · simpa using (hexplored name hmem).2 next hlink
        · exact absurd hlink (not_isLink_of_resolve_eq_none hnone)
  | case2 seen rest => simp [reaches] at h
  | case3 seen name rest hne hseen ih =>
      rw [reaches_of_mem_seen hne hseen] at h
      have hname : g.IsSettled goal (seen ++ rest) name := Or.inl (List.mem_append_left _ hseen)
      obtain ⟨closed, hsettled, hrest⟩ := ih (hexplored.of_settled fun _ => hname.drop) h
      exact ⟨closed, fun x hx => hsettled x (hname.drop hx), hrest⟩
  | case4 seen name rest hne hseen hres ih =>
      rw [reaches_of_undeclared hne hseen hres] at h
      -- Being undeclared and not the goal is as good as being listed.
      have hname : g.IsSettled goal (seen ++ rest) name := Or.inr ⟨hres, hne⟩
      obtain ⟨closed, hsettled, hrest⟩ := ih (hexplored.of_settled fun _ => hname.drop) h
      exact ⟨closed, fun x hx => hsettled x (hname.drop hx), hrest⟩
  | case5 seen name rest hne hseen e hres hlt ih =>
      rw [reaches_of_declared hne hseen hres] at h
      -- The name moves to those that were left, and its links are to be visited.
      have hkeep : ∀ x, g.IsSettled goal (seen ++ name :: rest) x →
          g.IsSettled goal (name :: seen ++ (links followInterfaces e ++ rest)) x := by
        rintro x (hmem | hnone)
        · simp only [IsSettled, List.cons_append, List.mem_append, List.mem_cons] at hmem ⊢
          tauto
        · exact Or.inr hnone
      have hexplored' : g.IsExplored followInterfaces goal (name :: seen)
          (links followInterfaces e ++ rest) := by
        intro x hx
        rcases List.mem_cons.mp hx with rfl | hx
        · refine ⟨hne, ?_⟩
          rintro next ⟨e', hres', hlink⟩
          obtain rfl : e = e' := Option.some.inj (hres.symm.trans hres')
          exact Or.inl (by simp [hlink])
        · exact ⟨(hexplored x hx).1, fun next hlink => hkeep next ((hexplored x hx).2 next hlink)⟩
      obtain ⟨closed, hsettled, hrest⟩ := ih hexplored' h
      exact ⟨closed, fun x hx => hsettled x (hkeep x hx), hrest⟩

/-- The search answers reachability. -/
theorem reaches_iff {start : ClassName} :
    g.reaches followInterfaces goal [] [start] = true ↔
      ReflTransGen (g.IsLink followInterfaces) start goal := by
  constructor
  · intro h
    obtain ⟨name, hmem, hpath⟩ := exists_path_of_reaches h
    obtain rfl : name = start := by simpa using hmem
    exact hpath
  · intro hpath
    by_contra hfail
    obtain ⟨closed, hsettled, hgoal, hclosed⟩ :=
      exists_closed_of_not_reaches (by simp [IsExplored]) (Bool.eq_false_iff.mpr hfail)
    have habove : ∀ name, ReflTransGen (g.IsLink followInterfaces) start name → closed name := by
      intro name hname
      induction hname with
      | refl => exact hsettled start (Or.inl (by simp))
      | tail _ hlink ih => exact hclosed _ _ ih hlink
    exact hgoal (habove goal hpath)

/-! ## Assignability -/

/-- Everything is an object; otherwise the second class is reached from the
first, along interfaces too if it is one. -/
theorem isAssignable_iff {sub super : ClassName} :
    g.isAssignable sub super = true ↔
      super = .object ∨ ReflTransGen (g.IsLink (g.isInterface super)) sub super := by
  simp [isAssignable, reaches_iff]

@[simp] theorem isAssignable_self (name : ClassName) : g.isAssignable name name = true :=
  isAssignable_iff.mpr (Or.inr .refl)

@[simp] theorem isAssignable_object (name : ClassName) :
    g.isAssignable name .object = true :=
  isAssignable_iff.mpr (Or.inl rfl)

/-- A class stands above another one exactly along superclasses, or as the root. -/
theorem isAssignable_class_iff {sub super : ClassName} (h : g.isInterface super = false) :
    g.isAssignable sub super = true ↔ super = .object ∨ ReflTransGen g.Extends sub super := by
  rw [isAssignable_iff, h]
  have hsame : g.IsLink false = g.Extends := by
    funext a b
    exact propext isLink_false_iff
  rw [hsame]

/-- What a class extends, directly or not, it can be used as. -/
theorem isAssignable_of_extends {sub super : ClassName} (h : ReflTransGen g.Extends sub super) :
    g.isAssignable sub super = true :=
  isAssignable_iff.mpr (Or.inr (path_of_extends h))

end ClassGraft.ClassGraph
