import Mathlib.Logic.Function.Iterate
import ClassGraft.Proofs.Hierarchy.Listing

/-!
# The walk to the nearest common ancestor

The nearest common ancestor of two classes is looked for on the superclass chain of the first.
`ClassGraph.superclasses` lists this chain with a memory of what it has met; `ClassGraph.ascend`
is one step of the plain walk, which remembers nothing and goes round a cycle for ever unless a
class on it ends the walk. `ClassGraph.GoesRound` says when, and in every other case the walk is
over after at most two steps more than there are declared classes, and has found the ancestor. In
a graph whose superclass chains have no cycle there are no such cases.

The ancestor is least: whatever class the two can be used as, the ancestor can be used as too.
This needs neither that superclasses are declared nor that they are no interfaces.
-/

namespace ClassGraft

open Relation

namespace ClassGraph

variable {g : ClassGraph}

/-! ## The walk -/

/-- A walk up the superclasses of a class that looks for one which another can be used as. -/
inductive Ascent where
  /-- The class to look at next; there is none above the last. -/
  | going (candidate : Option ClassName)
  | ended (found : ClassName)
  deriving DecidableEq

/-- The question for two classes is answered at once if one of them can be used as the other,
or is an interface; otherwise a walk sets out from the first. -/
def Ascent.enter (g : ClassGraph) (a b : ClassName) : Ascent :=
  if g.isAssignable b a then .ended a
  else if g.isAssignable a b then .ended b
  else if g.isInterface a || g.isInterface b then .ended .object
  else .going (g.superclass a)

/-- One step of a walk: it is over at a class that `b` can be used as, and above the last one. -/
def ascend (g : ClassGraph) (b : ClassName) : Ascent → Ascent
  | .ended found => .ended found
  | .going none => .ended .object
  | .going (some c) => if g.isAssignable b c then .ended c else .going (g.superclass c)

theorem ascend_found {b c : ClassName} (h : g.isAssignable b c = true) :
    g.ascend b (.going (some c)) = .ended c :=
  if_pos h

theorem ascend_passed {b c : ClassName} (h : ¬ g.isAssignable b c = true) :
    g.ascend b (.going (some c)) = .going (g.superclass c) :=
  if_neg h

/-- A walk that is over stays where it is. -/
theorem iterate_ascend_ended (b found : ClassName) (n : Nat) :
    (g.ascend b)^[n] (.ended found) = .ended found :=
  Function.iterate_fixed rfl n

/-- There is nothing above the last class, so the root is what is found. -/
theorem iterate_ascend_none {b : ClassName} {n : Nat} (hn : 0 < n) :
    (g.ascend b)^[n] (.going none) = .ended .object := by
  obtain ⟨n, rfl⟩ := Nat.exists_eq_add_one.mpr hn
  rw [Function.iterate_succ_apply]
  exact iterate_ascend_ended b .object n

/-- A walk is over once, so there is at most one class that it finds. -/
theorem ended_unique {b r r' : ClassName} {m n : Nat} {walk : Ascent}
    (hr : (g.ascend b)^[m] walk = .ended r) (hr' : (g.ascend b)^[n] walk = .ended r') : r = r' := by
  rcases Nat.le_total m n with hle | hle
  · obtain ⟨k, rfl⟩ := Nat.exists_eq_add_of_le' hle
    rw [Function.iterate_add_apply, hr, iterate_ascend_ended] at hr'
    exact Ascent.ended.inj hr'
  · obtain ⟨k, rfl⟩ := Nat.exists_eq_add_of_le' hle
    rw [Function.iterate_add_apply, hr', iterate_ascend_ended] at hr
    exact (Ascent.ended.inj hr).symm

/-! ## Walks that go round -/

/-- The superclasses from here on run into a cycle, and `b` can be used as none of them. -/
def Circles (g : ClassGraph) (b : ClassName) (start : Option ClassName) : Prop :=
  ∃ c, start = some c ∧ (∀ d, ReflTransGen g.Extends c d → ¬ g.isAssignable b d = true) ∧
    ∃ d, ReflTransGen g.Extends c d ∧ TransGen g.Extends d d

/-- One step of such a walk leads to another one. -/
theorem Circles.ascend {b : ClassName} {start : Option ClassName} (h : g.Circles b start) :
    ∃ next, g.ascend b (.going start) = .going next ∧ g.Circles b next := by
  obtain ⟨c, rfl, hmissed, d, hcd, hcycle⟩ := h
  -- The class is on the cycle or below it, so there is one above it.
  obtain ⟨e, hext, hed⟩ : ∃ e, g.Extends c e ∧ ReflTransGen g.Extends e d := by
    rcases ReflTransGen.cases_head hcd with rfl | hhead
    · exact TransGen.head'_iff.mp hcycle
    · exact hhead
  have hsuper : g.superclass c = some e := hext
  refine ⟨some e, ?_, e, rfl, fun f hef => hmissed f (.head hext hef), d, hed, hcycle⟩
  rw [ascend_passed (hmissed c .refl), hsuper]

/-- It circles already from a class below that `b` cannot be used as. -/
theorem Circles.of_superclass {b name : ClassName} {e : ClassEntry}
    (h : g.Circles b e.superclass) (hres : g.resolve name = some e)
    (hmissed : ¬ g.isAssignable b name = true) : g.Circles b (some name) := by
  obtain ⟨c, hc, habove, d, hcd, hcycle⟩ := h
  have hext : g.Extends name c := extends_iff.mpr ⟨e, hres, hc⟩
  refine ⟨name, rfl, ?_, d, .head hext hcd, hcycle⟩
  intro f hf
  rcases ReflTransGen.cases_head hf with rfl | ⟨c', hext', hpath⟩
  · exact hmissed
  · obtain rfl : c = c' := Option.some.inj (hext.symm.trans hext')
    exact habove f hpath

/-- A walk that circles is never over. -/
theorem Circles.iterate_ascend {b : ClassName} {start : Option ClassName}
    (h : g.Circles b start) (n : Nat) :
    ∃ next, (g.ascend b)^[n] (.going start) = .going next := by
  induction n generalizing start with
  | zero => exact ⟨start, rfl⟩
  | succ n ih =>
      obtain ⟨next, hstep, hnext⟩ := h.ascend
      rw [Function.iterate_succ_apply, hstep]
      exact ih hnext

/-! ## The walk follows the chain -/

/-- What a walk has passed: a path to the class where it goes on, with nothing on it that `b` can
be used as. -/
structure Passed (g : ClassGraph) (b : ClassName) (seen : List ClassName)
    (start : Option ClassName) : Prop where
  below : ∀ a ∈ seen, ∀ c, start = some c → TransGen g.Extends a c
  next : ∀ a ∈ seen, ∀ c, g.Extends a c → c ∈ seen ∨ start = some c
  missed : ∀ a ∈ seen, ¬ g.isAssignable b a = true

theorem passed_nil (b : ClassName) (start : Option ClassName) : g.Passed b [] start where
  below := fun _ hmem => absurd hmem List.not_mem_nil
  next := fun _ hmem => absurd hmem List.not_mem_nil
  missed := fun _ hmem => absurd hmem List.not_mem_nil

namespace Passed

variable {b name : ClassName} {seen : List ClassName}

/-- A declared class is passed. -/
theorem cons {e : ClassEntry} (h : g.Passed b seen (some name))
    (hres : g.resolve name = some e) (hmissed : ¬ g.isAssignable b name = true) :
    g.Passed b (name :: seen) e.superclass where
  below := by
    intro a ha c hc
    have hext : g.Extends name c := extends_iff.mpr ⟨e, hres, hc⟩
    rcases List.mem_cons.mp ha with rfl | ha
    · exact .single hext
    · exact (h.below a ha name rfl).tail hext
  next := by
    intro a ha c hext
    rcases List.mem_cons.mp ha with rfl | ha
    · obtain ⟨e', hres', hsuper⟩ := extends_iff.mp hext
      obtain rfl : e = e' := Option.some.inj (hres.symm.trans hres')
      exact Or.inr hsuper
    · rcases h.next a ha c hext with hc | hc
      · exact Or.inl (List.mem_cons_of_mem _ hc)
      · exact Or.inl (Option.some.inj hc ▸ List.mem_cons_self)
  missed := by
    intro a ha
    rcases List.mem_cons.mp ha with rfl | ha
    · exact hmissed
    · exact h.missed a ha

/-- A class that is met again closes a cycle, and all that is above it has been passed. -/
theorem circles (h : g.Passed b seen (some name)) (hmem : name ∈ seen) :
    g.Circles b (some name) := by
  have hclosed : ∀ d, ReflTransGen g.Extends name d → d ∈ seen := by
    intro d hpath
    induction hpath with
    | refl => exact hmem
    | tail _ hext ih =>
        rcases h.next _ ih _ hext with hd | hd
        · exact hd
        · exact Option.some.inj hd ▸ hmem
  exact ⟨name, rfl, fun d hd => h.missed d (hclosed d hd), name, .refl, h.below name hmem name rfl⟩

end Passed

/-- A walk finds the first class on the chain of superclasses that `b` can be used as, or it goes
round. If it is over, it takes no more steps than there are classes left to see, and two. -/
theorem iterate_ascend {b : ClassName} {seen : List ClassName} {start : Option ClassName} {n : Nat}
    (hpassed : g.Passed b seen start) (hn : g.unseen seen + 2 ≤ n) :
    (g.ascend b)^[n] (.going start)
        = .ended (((g.chainFrom seen start).find? fun c => g.isAssignable b c).getD .object) ∨
      g.Circles b start := by
  obtain ⟨n, rfl⟩ := Nat.exists_eq_add_one.mpr (show 0 < n by omega)
  induction seen, start using chainFrom.induct g generalizing n with
  | case1 seen => exact Or.inl (by simpa [chainFrom] using iterate_ascend_none (Nat.succ_pos n))
  | case2 seen name hmem => exact Or.inr (hpassed.circles hmem)
  | case3 seen name hmem hres =>
      left
      rw [chainFrom_of_undeclared hmem hres, Function.iterate_succ_apply]
      by_cases hfound : g.isAssignable b name = true
      · rw [ascend_found hfound, iterate_ascend_ended]
        simp [hfound]
      · have hlast : g.superclass name = none := by simp [superclass, hres]
        rw [ascend_passed hfound, hlast, iterate_ascend_none (by omega)]
        simp [hfound]
  | case4 seen name hmem e hres hlt ih =>
      rw [chainFrom_of_declared hmem hres, Function.iterate_succ_apply]
      by_cases hfound : g.isAssignable b name = true
      · left
        rw [ascend_found hfound, iterate_ascend_ended]
        simp [hfound]
      · have hsuper : g.superclass name = e.superclass := by simp [superclass, hres]
        obtain ⟨n, rfl⟩ := Nat.exists_eq_add_one.mpr (show 0 < n by omega)
        rw [ascend_passed hfound, hsuper]
        rcases ih (hpassed.cons hres hfound) n (by omega) with hended | hcircles
        · left
          rw [hended]
          simp [hfound]
        · exact Or.inr (hcircles.of_superclass hres hfound)

/-- Neither of the two classes can be used as the other, none is an interface, and the chain of
the first one runs into a cycle without a class that the second one can be used as. -/
def GoesRound (g : ClassGraph) (a b : ClassName) : Prop :=
  Ascent.enter g a b = .going (g.superclass a) ∧ g.Circles b (g.superclass a)

/-- This takes a cycle. -/
theorem not_goesRound (hacyclic : ∀ a, ¬ TransGen g.Extends a a) (a b : ClassName) :
    ¬ g.GoesRound a b := by
  rintro ⟨-, c, -, -, d, -, hcycle⟩
  exact hacyclic d hcycle

/-- The question about two declared classes has an answer, and the walk comes to it unless it
goes round. -/
theorem exists_iterate_ascend_enter {a b : ClassName} (hround : ¬ g.GoesRound a b)
    (ha : (g.resolve a).isSome) (hb : (g.resolve b).isSome) :
    ∃ r, g.nearestCommonAncestor a b = .ok r ∧
      (g.ascend b)^[g.size + 2] (.enter g a b) = .ended r := by
  obtain ⟨entryA, hentryA⟩ := Option.isSome_iff_exists.mp ha
  obtain ⟨entryB, hentryB⟩ := Option.isSome_iff_exists.mp hb
  have hintA : g.isInterface a = entryA.isInterface := by simp [isInterface, hentryA]
  have hintB : g.isInterface b = entryB.isInterface := by simp [isInterface, hentryB]
  rw [GoesRound] at hround
  simp only [nearestCommonAncestor, hentryA, hentryB, Ascent.enter, hintA, hintB] at hround ⊢
  split
  · exact ⟨a, rfl, iterate_ascend_ended b a _⟩
  · next hba =>
    split
    · exact ⟨b, rfl, iterate_ascend_ended b b _⟩
    · next hab =>
      split
      · exact ⟨.object, rfl, iterate_ascend_ended b .object _⟩
      · next hint =>
        rw [if_neg hba, if_neg hab, if_neg hint] at hround
        have hunseen : g.unseen [] + 2 ≤ g.size + 2 := by simp [unseen, size]
        rcases iterate_ascend (passed_nil b (g.superclass a)) hunseen with hended | hcircles
        · exact ⟨_, rfl, hended⟩
        · exact absurd ⟨rfl, hcircles⟩ hround

/-- In every graph a walk is over exactly where it does not go round, and then it has found the
nearest common ancestor. -/
theorem exists_iterate_ascend_eq_ended_iff {a b r : ClassName} (ha : (g.resolve a).isSome)
    (hb : (g.resolve b).isSome) :
    (∃ n, (g.ascend b)^[n] (.enter g a b) = .ended r) ↔
      ¬ g.GoesRound a b ∧ g.nearestCommonAncestor a b = .ok r := by
  constructor
  · rintro ⟨n, hended⟩
    have hround : ¬ g.GoesRound a b := by
      rintro ⟨henter, hcircles⟩
      obtain ⟨next, hgoing⟩ := hcircles.iterate_ascend n
      rw [henter, hgoing] at hended
      cases hended
    obtain ⟨r', hnca, hwalk⟩ := exists_iterate_ascend_enter hround ha hb
    exact ⟨hround, ended_unique hwalk hended ▸ hnca⟩
  · rintro ⟨hround, hnca⟩
    obtain ⟨r', hnca', hwalk⟩ := exists_iterate_ascend_enter hround ha hb
    obtain rfl : r' = r := Except.ok.inj (hnca'.symm.trans hnca)
    exact ⟨_, hwalk⟩

/-! ## The ancestor -/

/-- Two declared classes of a listing without superclass cycles have a nearest common ancestor,
and the walk finds it. Both classes can be used as the ancestor, and the ancestor as every class
that both can be used as and that is not declared as an interface. If the second class can be
used as the first, the first is the ancestor, and otherwise the second if the first can be used
as it. -/
theorem exists_least_common_ancestor (hlisted : ∃ listing, ofListing listing = .ok g)
    (hacyclic : ∀ a, ¬ TransGen g.Extends a a) {a b : ClassName} (ha : (g.resolve a).isSome)
    (hb : (g.resolve b).isSome) :
    ∃ r, g.nearestCommonAncestor a b = .ok r ∧
      (g.ascend b)^[g.size + 2] (.enter g a b) = .ended r ∧
      g.isAssignable a r = true ∧ g.isAssignable b r = true ∧
      (∀ c, g.isInterface c = false → g.isAssignable a c = true → g.isAssignable b c = true →
        g.isAssignable r c = true) ∧
      (g.isAssignable b a = true → r = a) ∧
      (g.isAssignable b a = false → g.isAssignable a b = true → r = b) := by
  have hg := isRooted_of_isListed hlisted
  obtain ⟨r, hnca, hwalk⟩ := exists_iterate_ascend_enter (not_goesRound hacyclic a b) ha hb
  obtain ⟨har, hbr⟩ := isAssignable_nearestCommonAncestor hnca
  exact ⟨r, hnca, hwalk, har, hbr, fun c => hg.isAssignable_of_common hnca,
    eq_left_of_nearestCommonAncestor hnca, eq_right_of_nearestCommonAncestor hnca⟩

end ClassGraph

namespace Zoo

/-- No class of the hierarchy is above itself. -/
theorem not_cycle_extends (a : ClassName) : ¬ TransGen graph.Extends a a := fun hcycle =>
  isLegal_graph.isAcyclic a
    (TransGen.mono (fun _ _ => ClassGraph.IsLink.of_extends) _ _ hcycle)

/-- Integers and strings have nothing in common but the root. -/
theorem nearestCommonAncestor_integer_string :
    graph.nearestCommonAncestor .integer .string = .ok .object := by
  have hinteger : graph.resolve .integer
      = some { ClassEntry.below .number .integer with interfaces := [.comparable] } := by decide
  have hstring : graph.resolve .string
      = some { ClassEntry.below .object .string with
          interfaces := [.serializable, .comparable, .charSequence] } := by decide
  have hup : graph.isAssignable .string .integer = false := by cbv
  have hdown : graph.isAssignable .integer .string = false := by cbv
  have hnumber : graph.isAssignable .string .number = false := by cbv
  have hchain : graph.superclasses .integer = [.number, .object] := by cbv
  rw [ClassGraph.nearestCommonAncestor, hinteger, hstring]
  simp [hup, hdown, hchain, hnumber, ClassEntry.below]

/-- Integers and strings have the root in common: the walk passes the numbers, which strings
are not. -/
theorem exists_least_common_ancestor_root :
    (graph.resolve .integer).isSome ∧ (graph.resolve .string).isSome ∧
      graph.isAssignable .string .number = false ∧
      graph.nearestCommonAncestor .integer .string = .ok .object ∧
      (graph.ascend .string)^[graph.size + 2] (.enter graph .integer .string) = .ended .object ∧
      ∀ c, graph.isInterface c = false → graph.isAssignable .integer c = true →
        graph.isAssignable .string c = true → graph.isAssignable .object c = true := by
  have hinteger : (graph.resolve .integer).isSome := by decide
  have hstring : (graph.resolve .string).isSome := by decide
  obtain ⟨r, hr, hwalk, _, _, hleast, _⟩ :=
    ClassGraph.exists_least_common_ancestor isLegal_graph.isListed not_cycle_extends hinteger hstring
  obtain rfl : ClassName.object = r :=
    Except.ok.inj (nearestCommonAncestor_integer_string.symm.trans hr)
  exact ⟨hinteger, hstring, by cbv, hr, hwalk, hleast⟩

end Zoo

end ClassGraft
