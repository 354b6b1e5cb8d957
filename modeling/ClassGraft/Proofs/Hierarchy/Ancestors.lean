import Mathlib.Data.List.Chain
import ClassGraft.Proofs.Hierarchy.Reachability

/-!
# Superclass chains and the nearest common ancestor

`ClassGraph.superclasses` lists what a class extends, directly or not, nearest
first: exactly the transitive closure of `Extends`, and each entry extends to
every later one. This holds of malformed graphs too; a chain that runs into a
cycle lists the cycle once, where a walk without memory would not end.

In a rooted graph the nearest common ancestor of two classes is their least
upper bound among the classes: whatever class both can be used as, the ancestor
can be used as, and nothing else. Interfaces stay out of the bound, since the
links of interfaces need not meet in one place.
-/

namespace ClassGraft.ClassGraph

open Relation

variable {g : ClassGraph}

/-! ## The chain of superclasses -/

/-- A chain that comes back to a name it has seen ends. -/
theorem chainFrom_of_mem_seen {seen : List ClassName} {name : ClassName} (hseen : name ∈ seen) :
    g.chainFrom seen (some name) = [] := by
  rw [chainFrom, dif_pos hseen]

/-- An undeclared class is the last of its chain. -/
theorem chainFrom_of_undeclared {seen : List ClassName} {name : ClassName} (hseen : name ∉ seen)
    (hres : g.resolve name = none) : g.chainFrom seen (some name) = [name] := by
  rw [chainFrom, dif_neg hseen]
  split
  · rfl
  · next hsome => rw [hres] at hsome; cases hsome

/-- From a declared class the chain goes on with its superclass. -/
theorem chainFrom_of_declared {seen : List ClassName} {name : ClassName} {e : ClassEntry}
    (hseen : name ∉ seen) (hres : g.resolve name = some e) :
    g.chainFrom seen (some name) = name :: g.chainFrom (name :: seen) e.superclass := by
  rw [chainFrom, dif_neg hseen]
  split
  · next hnone => rw [hres] at hnone; cases hnone
  · next e' hres' =>
    obtain rfl : e = e' := Option.some.inj (hres.symm.trans hres')
    rfl

/-- A chain starts with the name it was asked for, if it has any. -/
theorem head_chainFrom {seen : List ClassName} {start : Option ClassName} {c : ClassName}
    (h : (g.chainFrom seen start).head? = some c) : start = some c := by
  cases start with
  | none => simp [chainFrom] at h
  | some name =>
      by_cases hseen : name ∈ seen
      · simp [chainFrom_of_mem_seen hseen] at h
      · cases hres : g.resolve name with
        | none => simpa [chainFrom_of_undeclared hseen hres] using h
        | some e => simpa [chainFrom_of_declared hseen hres] using h

/-- Each class on a chain extends the next one. -/
theorem isChain_chainFrom (seen : List ClassName) (start : Option ClassName) :
    (g.chainFrom seen start).IsChain g.Extends := by
  induction seen, start using chainFrom.induct g with
  | case1 seen => simp [chainFrom]
  | case2 seen name hseen => simp [chainFrom_of_mem_seen hseen]
  | case3 seen name hseen hres => simp [chainFrom_of_undeclared hseen hres]
  | case4 seen name hseen e hres hlt ih =>
      rw [chainFrom_of_declared hseen hres, List.isChain_cons]
      refine ⟨?_, ih⟩
      intro next hhead
      exact extends_iff.mpr ⟨e, hres, head_chainFrom hhead⟩

/-- What was seen and what a chain lists is closed under superclasses, provided
that the chain starts where the seen names end. -/
theorem closed_chainFrom {seen : List ClassName} {start : Option ClassName}
    (hseen : ∀ a ∈ seen, ∀ b, g.Extends a b → b ∈ seen ∨ start = some b) :
    ∀ a ∈ seen ++ g.chainFrom seen start, ∀ b, g.Extends a b →
      b ∈ seen ++ g.chainFrom seen start := by
  induction seen, start using chainFrom.induct g with
  | case1 seen => simpa [chainFrom] using hseen
  | case2 seen name hmem =>
      rw [chainFrom_of_mem_seen hmem, List.append_nil]
      intro a ha b hext
      rcases hseen a ha b hext with hb | hstart
      · exact hb
      · exact Option.some.inj hstart ▸ hmem
  | case3 seen name hmem hres =>
      rw [chainFrom_of_undeclared hmem hres]
      intro a ha b hext
      rcases List.mem_append.mp ha with ha | ha
      · rcases hseen a ha b hext with hb | hstart
        · exact List.mem_append_left _ hb
        · exact List.mem_append_right _ (by simp [Option.some.inj hstart])
      · -- The last class is undeclared, so it extends nothing.
        obtain rfl : a = name := by simpa using ha
        have hsome := isSome_resolve_of_extends hext
        rw [hres] at hsome
        cases hsome
  | case4 seen name hmem e hres hlt ih =>
      have hnext : ∀ a ∈ name :: seen, ∀ b, g.Extends a b →
          b ∈ name :: seen ∨ e.superclass = some b := by
        intro a ha b hext
        rcases List.mem_cons.mp ha with rfl | ha
        · obtain ⟨e', hres', hsuper⟩ := extends_iff.mp hext
          obtain rfl : e = e' := Option.some.inj (hres.symm.trans hres')
          exact Or.inr hsuper
        · rcases hseen a ha b hext with hb | hstart
          · exact Or.inl (List.mem_cons_of_mem _ hb)
          · exact Or.inl (by simp [Option.some.inj hstart])
      intro a ha b hext
      rw [chainFrom_of_declared hmem hres] at ha ⊢
      have hclosed := ih hnext a (by simpa [or_left_comm] using ha) b hext
      simpa [or_left_comm] using hclosed

/-- The proper superclasses are what a class extends, directly or not. -/
theorem mem_superclasses_iff {a c : ClassName} :
    c ∈ g.superclasses a ↔ TransGen g.Extends a c := by
  constructor
  · intro h
    unfold superclasses at h
    -- The chain from the class itself on is linked from end to end.
    have hchain : (a :: g.chainFrom [] (g.superclass a)).IsChain (TransGen g.Extends) := by
      rw [List.isChain_cons]
      refine ⟨?_, (isChain_chainFrom _ _).imp fun _ _ => .single⟩
      intro next hhead
      exact .single (head_chainFrom hhead)
    exact (List.pairwise_cons.mp hchain.pairwise).1 c h
  · intro h
    have hclosed := @closed_chainFrom g [] (g.superclass a) (by simp)
    simp only [List.nil_append] at hclosed
    obtain ⟨b, hab, hbc⟩ := TransGen.head'_iff.mp h
    have hfirst : b ∈ g.superclasses a := by
      have hsuper : g.superclass a = some b := hab
      rw [superclasses, hsuper]
      cases hres : g.resolve b with
      | none => simp [chainFrom_of_undeclared List.not_mem_nil hres]
      | some e => simp [chainFrom_of_declared List.not_mem_nil hres]
    induction hbc with
    | refl => exact hfirst
    | tail hpath hext ih => exact hclosed _ (ih (TransGen.head' hab hpath)) _ hext

/-- Nearer superclasses extend to the farther ones. -/
theorem pairwise_superclasses (a : ClassName) :
    (g.superclasses a).Pairwise (TransGen g.Extends) :=
  ((isChain_chainFrom [] (g.superclass a)).imp fun _ _ => TransGen.single).pairwise

/-! ## Rooted graphs -/

/-- The root is declared as such, and interfaces stand directly below it. -/
structure IsRooted (g : ClassGraph) : Prop where
  /-- The root is a class and extends nothing. -/
  root : g.resolve .object = some .root
  /-- The superclass of an interface is the root. -/
  superclass_interface : ∀ name, g.isInterface name = true → g.superclass name = some .object

namespace IsRooted

variable (hg : g.IsRooted)
include hg

/-- The root is declared. -/
theorem isSome_object : (g.resolve .object).isSome := by
  rw [hg.root]
  rfl

/-- The root is no interface. -/
theorem isInterface_object : g.isInterface .object = false := by
  rw [isInterface, hg.root]
  rfl

/-- Nothing stands above the root. -/
theorem eq_object_of_object {c : ClassName} (h : ReflTransGen g.Extends .object c) :
    c = .object := by
  rcases ReflTransGen.cases_head h with rfl | ⟨b, hext, _⟩
  · rfl
  · have hnone : g.superclass .object = none := by simp [superclass, hg.root, ClassEntry.root]
    rw [Extends, hnone] at hext
    cases hext

/-- Above an interface there is no class but the root. -/
theorem eq_object_of_interface {i c : ClassName} (hi : g.isInterface i = true)
    (hc : g.isInterface c = false) (h : ReflTransGen g.Extends i c) : c = .object := by
  rcases ReflTransGen.cases_head h with rfl | ⟨b, hext, hpath⟩
  · rw [hi] at hc
    cases hc
  · have hsuper : g.superclass i = some b := hext
    rw [hg.superclass_interface i hi] at hsuper
    obtain rfl : ClassName.object = b := Option.some.inj hsuper
    exact hg.eq_object_of_object hpath

/-- Assignability to classes composes. -/
theorem isAssignable_trans {a b c : ClassName} (hc : g.isInterface c = false)
    (hab : g.isAssignable a b = true) (hbc : g.isAssignable b c = true) :
    g.isAssignable a c = true := by
  rcases (isAssignable_class_iff hc).mp hbc with rfl | hpath
  · exact isAssignable_object a
  · cases hb : g.isInterface b with
    | true =>
        rw [hg.eq_object_of_interface hb hc hpath]
        exact isAssignable_object a
    | false =>
        rcases (isAssignable_class_iff hb).mp hab with rfl | hlower
        · rw [hg.eq_object_of_object hpath]
          exact isAssignable_object a
        · exact isAssignable_of_extends (hlower.trans hpath)

end IsRooted

/-! ## The nearest common ancestor -/

/-- The ways in which the nearest common ancestor is found. -/
theorem nearestCommonAncestor_cases {a b r : ClassName}
    (h : g.nearestCommonAncestor a b = .ok r) :
    (g.isAssignable b a = true ∧ r = a) ∨
    (g.isAssignable b a = false ∧ g.isAssignable a b = true ∧ r = b) ∨
    (g.isAssignable b a = false ∧ g.isAssignable a b = false ∧
      ((g.isInterface a = true ∨ g.isInterface b = true) ∧ r = .object ∨
        r = ((g.superclasses a).find? fun c => g.isAssignable b c).getD .object)) := by
  unfold nearestCommonAncestor at h
  cases ha : g.resolve a with
  | none => simp [ha] at h
  | some entryA =>
      cases hb : g.resolve b with
      | none => simp [ha, hb] at h
      | some entryB =>
          simp only [ha, hb] at h
          have hia : g.isInterface a = entryA.isInterface := by simp [isInterface, ha]
          have hib : g.isInterface b = entryB.isInterface := by simp [isInterface, hb]
          split at h
          · next hba => exact Or.inl ⟨hba, (Except.ok.inj h).symm⟩
          · next hba =>
            split at h
            · next hab =>
              exact Or.inr (Or.inl ⟨Bool.eq_false_iff.mpr hba, hab, (Except.ok.inj h).symm⟩)
            · next hab =>
              refine Or.inr (Or.inr ⟨Bool.eq_false_iff.mpr hba, Bool.eq_false_iff.mpr hab, ?_⟩)
              split at h
              · next hint =>
                rw [hia, hib]
                exact Or.inl ⟨Bool.or_eq_true_iff.mp hint, (Except.ok.inj h).symm⟩
              · exact Or.inr (Except.ok.inj h).symm

/-- The ancestor is found for declared classes, and only for them. -/
theorem exists_nearestCommonAncestor_iff {a b : ClassName} :
    (∃ r, g.nearestCommonAncestor a b = .ok r) ↔
      (g.resolve a).isSome ∧ (g.resolve b).isSome := by
  unfold nearestCommonAncestor
  cases ha : g.resolve a with
  | none => simp
  | some entryA =>
      cases hb : g.resolve b with
      | none => simp
      | some entryB =>
          simp only [Option.isSome_some, and_self, iff_true]
          split
          · exact ⟨a, rfl⟩
          · split
            · exact ⟨b, rfl⟩
            · split
              · exact ⟨_, rfl⟩
              · exact ⟨_, rfl⟩

/-- The first class is the ancestor if the second can be used as it. -/
theorem eq_left_of_nearestCommonAncestor {a b r : ClassName}
    (h : g.nearestCommonAncestor a b = .ok r) (hba : g.isAssignable b a = true) : r = a := by
  rcases nearestCommonAncestor_cases h with ⟨_, hr⟩ | ⟨hnot, _⟩ | ⟨hnot, _⟩
  · exact hr
  · rw [hba] at hnot
    cases hnot
  · rw [hba] at hnot
    cases hnot

/-- Otherwise it is the second one, if the first can be used as that. -/
theorem eq_right_of_nearestCommonAncestor {a b r : ClassName}
    (h : g.nearestCommonAncestor a b = .ok r) (hba : g.isAssignable b a = false)
    (hab : g.isAssignable a b = true) : r = b := by
  rcases nearestCommonAncestor_cases h with ⟨hyes, _⟩ | ⟨_, _, hr⟩ | ⟨_, hnot, _⟩
  · rw [hba] at hyes
    cases hyes
  · exact hr
  · rw [hab] at hnot
    cases hnot

/-- Both classes can be used as their nearest common ancestor. -/
theorem isAssignable_nearestCommonAncestor {a b r : ClassName}
    (h : g.nearestCommonAncestor a b = .ok r) :
    g.isAssignable a r = true ∧ g.isAssignable b r = true := by
  rcases nearestCommonAncestor_cases h with
    ⟨hba, rfl⟩ | ⟨_, hab, rfl⟩ | ⟨_, _, ⟨_, rfl⟩ | hr⟩
  · exact ⟨isAssignable_self r, hba⟩
  · exact ⟨hab, isAssignable_self r⟩
  · exact ⟨isAssignable_object a, isAssignable_object b⟩
  · cases hfind : (g.superclasses a).find? fun c => g.isAssignable b c with
    | none =>
        rw [hr, hfind]
        exact ⟨isAssignable_object a, isAssignable_object b⟩
    | some c =>
        obtain rfl : r = c := by rw [hr, hfind]; rfl
        have hmem := mem_superclasses_iff.mp (List.mem_of_find?_eq_some hfind)
        have hbr : g.isAssignable b r = true := by simpa using List.find?_some hfind
        exact ⟨isAssignable_of_extends hmem.to_reflTransGen, hbr⟩

/-- No class that both classes can be used as lies below the ancestor. -/
theorem IsRooted.isAssignable_of_common {a b r c : ClassName} (hg : g.IsRooted)
    (h : g.nearestCommonAncestor a b = .ok r) (hc : g.isInterface c = false)
    (hac : g.isAssignable a c = true) (hbc : g.isAssignable b c = true) :
    g.isAssignable r c = true := by
  rcases nearestCommonAncestor_cases h with
    ⟨_, rfl⟩ | ⟨_, _, rfl⟩ | ⟨hba, _, ⟨hint, rfl⟩ | hr⟩
  · exact hac
  · exact hbc
  · -- One of the two is an interface, so they have no class in common but the root.
    have hroot : c = .object := by
      rcases hint with hi | hi
      · rcases (isAssignable_class_iff hc).mp hac with rfl | hpath
        · rfl
        · exact hg.eq_object_of_interface hi hc hpath
      · rcases (isAssignable_class_iff hc).mp hbc with rfl | hpath
        · rfl
        · exact hg.eq_object_of_interface hi hc hpath
    rw [hroot]
    exact isAssignable_object _
  · rcases (isAssignable_class_iff hc).mp hac with rfl | hpath
    · exact isAssignable_object r
    · -- The common class is on the chain, at the ancestor or after it.
      have hmem : c ∈ g.superclasses a := by
        rcases reflTransGen_iff_eq_or_transGen.mp hpath with rfl | htrans
        · rw [hba] at hbc
          cases hbc
        · exact mem_superclasses_iff.mpr htrans
      cases hfind : (g.superclasses a).find? fun c => g.isAssignable b c with
      | none =>
          have hnot := List.find?_eq_none.mp hfind c hmem
          exact absurd hbc hnot
      | some first =>
          obtain rfl : r = first := by rw [hr, hfind]; rfl
          obtain ⟨_, before, after, hsplit, hbefore⟩ := List.find?_eq_some_iff_append.mp hfind
          rw [hsplit] at hmem
          have hpairs := pairwise_superclasses (g := g) a
          rw [hsplit] at hpairs
          rcases List.mem_append.mp hmem with hmem | hmem
          · have hnot := hbefore c hmem
            rw [hbc] at hnot
            cases hnot
          · rcases List.mem_cons.mp hmem with rfl | hmem
            · exact isAssignable_self c
            · have habove := (List.pairwise_cons.mp (List.pairwise_append.mp hpairs).2.1).1 c hmem
              exact isAssignable_of_extends habove.to_reflTransGen

/-- The ancestor is the least upper bound among the classes. -/
theorem IsRooted.isAssignable_nearestCommonAncestor_iff {a b r c : ClassName} (hg : g.IsRooted)
    (h : g.nearestCommonAncestor a b = .ok r) (hc : g.isInterface c = false) :
    g.isAssignable r c = true ↔ g.isAssignable a c = true ∧ g.isAssignable b c = true := by
  obtain ⟨har, hbr⟩ := isAssignable_nearestCommonAncestor h
  constructor
  · intro hrc
    exact ⟨hg.isAssignable_trans hc har hrc, hg.isAssignable_trans hc hbr hrc⟩
  · rintro ⟨hac, hbc⟩
    exact hg.isAssignable_of_common h hc hac hbc

/-- Where every named superclass is declared, so is the ancestor. -/
theorem IsRooted.isSome_nearestCommonAncestor {a b r : ClassName} (hg : g.IsRooted)
    (hclosed : ∀ c d, g.Extends c d → (g.resolve d).isSome)
    (h : g.nearestCommonAncestor a b = .ok r) : (g.resolve r).isSome := by
  obtain ⟨hsa, hsb⟩ := exists_nearestCommonAncestor_iff.mp ⟨r, h⟩
  rcases nearestCommonAncestor_cases h with
    ⟨_, rfl⟩ | ⟨_, _, rfl⟩ | ⟨_, _, ⟨_, rfl⟩ | hr⟩
  · exact hsa
  · exact hsb
  · exact hg.isSome_object
  · cases hfind : (g.superclasses a).find? fun c => g.isAssignable b c with
    | none =>
        rw [hr, hfind]
        exact hg.isSome_object
    | some c =>
        obtain rfl : r = c := by rw [hr, hfind]; rfl
        have hmem := mem_superclasses_iff.mp (List.mem_of_find?_eq_some hfind)
        obtain ⟨d, _, hext⟩ := TransGen.tail'_iff.mp hmem
        exact hclosed d r hext

end ClassGraft.ClassGraph
