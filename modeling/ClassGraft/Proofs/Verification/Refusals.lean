import ClassGraft.Proofs.Verification.Symmetry

/-!
# Where joins are refused

Two types have a common supertype unless they clash, as two different types do of which one
is a primitive, or unless the graph misses a class. A class is looked up only where two
different classes are joined at one depth, so it does not matter elsewhere whether it is
declared: not beside null, not beside itself, and not in an array of another depth.

The main statement is exact in both directions: each refusal has its condition, and where
neither condition holds there is a join. It holds in every graph, as the ancestor of two classes
is looked for with a memory here. A walk without memory comes to the same join or to none at all,
and to none exactly where `ClassGraph.GoesRound` says so, which takes a cycle of superclasses.
Slots are refused for a missing class only, since values that clash leave an unusable slot.
-/

namespace ClassGraft

open RefType (ofDepth)

/-! ## The two reasons -/

/-- The types differ, neither is null, and at least one is a primitive. -/
structure VerificationType.Clash (a b : VerificationType) : Prop where
  ne : a ≠ b
  left_ne_null : a ≠ .null
  right_ne_null : b ≠ .null
  isPrimitive : a.isReference = false ∨ b.isReference = false

/-- References do not clash. -/
theorem VerificationType.not_clash_reference (x y : RefType ClassName) :
    ¬ Clash (.reference x) (.reference y) := by
  intro h
  rcases h.isPrimitive with hprim | hprim <;> cases hprim

namespace ClassGraph

/-- The first of two classes that is not declared. -/
inductive FirstUndeclared (g : ClassGraph) (c d : ClassName) : ClassName → Prop
  | left (hc : g.resolve c = none) : g.FirstUndeclared c d c
  | right (hc : (g.resolve c).isSome) (hd : g.resolve d = none) : g.FirstUndeclared c d d

/-- The types are two different classes at one depth, plain ones or the elements of arrays,
and the named one is the first of the two that is not declared. -/
def Misses (g : ClassGraph) (a b : VerificationType) (name : ClassName) : Prop :=
  ∃ n c d, a = .reference (ofDepth n c) ∧ b = .reference (ofDepth n d) ∧ c ≠ d ∧
    g.FirstUndeclared c d name

/-- What joining two types comes to. -/
inductive JoinOutcome (g : ClassGraph) (a b : VerificationType) :
    Except VerifierError VerificationType → Prop
  | clash (h : a.Clash b) : g.JoinOutcome a b (.error (.incompatibleTypes a b))
  | missing {name : ClassName} (h : g.Misses a b name) :
      g.JoinOutcome a b (.error (.missingClass name))
  | join {r : VerificationType} (hclash : ¬ a.Clash b) (hmisses : ∀ name, ¬ g.Misses a b name) :
      g.JoinOutcome a b (.ok r)

variable {g : ClassGraph} {a b : VerificationType}

/-! ## The reasons exclude each other -/

/-- There is at most one first undeclared class. -/
theorem FirstUndeclared.unique {c d m n : ClassName} (hm : g.FirstUndeclared c d m)
    (hn : g.FirstUndeclared c d n) : m = n := by
  cases hm <;> cases hn <;> simp_all

/-- Two classes that are both declared have none. -/
theorem not_firstUndeclared {c d : ClassName} (h : (g.resolve c).isSome ∧ (g.resolve d).isSome)
    (name : ClassName) : ¬ g.FirstUndeclared c d name := by
  intro hname
  cases hname with
  | left hc => simp [hc] at h
  | right hc hd => simp [hd] at h

/-- What two classes at one depth miss is the first of them that is undeclared. -/
theorem misses_ofDepth_iff {n : Nat} {c d name : ClassName} :
    g.Misses (.reference (ofDepth n c)) (.reference (ofDepth n d)) name ↔
      c ≠ d ∧ g.FirstUndeclared c d name := by
  constructor
  · rintro ⟨m, c', d', hc, hd, hne, hname⟩
    obtain ⟨rfl, rfl⟩ := RefType.ofDepth_inj.mp (VerificationType.reference.inj hc)
    obtain ⟨-, rfl⟩ := RefType.ofDepth_inj.mp (VerificationType.reference.inj hd)
    exact ⟨hne, hname⟩
  · rintro ⟨hne, hname⟩
    exact ⟨n, c, d, rfl, rfl, hne, hname⟩

/-- A type misses nothing beside itself. -/
theorem not_misses_self (name : ClassName) : ¬ g.Misses a a name := by
  rintro ⟨n, c, d, rfl, hcd, hne, -⟩
  exact hne (RefType.ofDepth_inj.mp (VerificationType.reference.inj hcd)).2

/-- Types that clash miss no class. -/
theorem Misses.not_clash {name : ClassName} (h : g.Misses a b name) : ¬ a.Clash b := by
  obtain ⟨n, c, d, rfl, rfl, -, -⟩ := h
  exact VerificationType.not_clash_reference _ _

/-- No two classes are missed at once. -/
theorem Misses.unique {m n : ClassName} (hm : g.Misses a b m) (hn : g.Misses a b n) : m = n := by
  obtain ⟨depth, c, d, rfl, rfl, -, hm⟩ := hm
  exact hm.unique (misses_ofDepth_iff.mp hn).2

/-! ## Every join has one of the outcomes -/

/-- Two different classes at one depth miss a class, or join because both are declared. -/
theorem joinOutcome_ofDepth {c d : ClassName} (hne : c ≠ d) (n : Nat) :
    g.JoinOutcome (.reference (ofDepth n c)) (.reference (ofDepth n d))
      (((g.commonClass c d).map (ofDepth n)).map .reference) := by
  by_cases hdeclared : (g.resolve c).isSome ∧ (g.resolve d).isSome
  · obtain ⟨r, hr⟩ := exists_nearestCommonAncestor_iff.mpr hdeclared
    rw [commonClass_eq_ok_iff.mpr (Or.inr ⟨hne, hr⟩)]
    refine .join (VerificationType.not_clash_reference _ _) ?_
    intro name hmisses
    exact not_firstUndeclared hdeclared name (misses_ofDepth_iff.mp hmisses).2
  · rw [commonClass_of_undeclared hne hdeclared]
    refine .missing (misses_ofDepth_iff.mpr ⟨hne, ?_⟩)
    cases hc : g.resolve c with
    | none => exact .left hc
    | some entry => exact .right (by simp [hc]) (by simpa [hc] using hdeclared)

/-- Two references join, unless two different classes at one depth miss one. -/
theorem joinOutcome_reference (x y : RefType ClassName) :
    g.JoinOutcome (.reference x) (.reference y)
      (g.commonSupertype (.reference x) (.reference y)) := by
  have hclash := VerificationType.not_clash_reference x y
  rw [commonSupertype_reference]
  rcases commonRefSupertype_cases g x y with
    ⟨rfl, hself⟩ | ⟨n, c, d, hne, rfl, rfl, hclasses⟩ | ⟨-, hshape, hobjects⟩
  · rw [hself]
    exact .join hclash not_misses_self
  · rw [hclasses]
    exact joinOutcome_ofDepth hne n
  · rw [hobjects]
    refine .join hclash ?_
    rintro name ⟨n, c, d, hx, hy, -, -⟩
    exact hshape n c d (VerificationType.reference.inj hx) (VerificationType.reference.inj hy)

/-- All other types differ in kind: they clash, unless one of them is null. -/
theorem joinOutcome (g : ClassGraph) (a b : VerificationType) :
    g.JoinOutcome a b (g.commonSupertype a b) := by
  by_cases hab : a = b
  · subst hab
    rw [commonSupertype_self]
    exact .join (fun hclash => hclash.ne rfl) not_misses_self
  by_cases hb : b = .null
  · subst hb
    rw [commonSupertype_null]
    refine .join (fun hclash => hclash.right_ne_null rfl) ?_
    rintro name ⟨n, c, d, -, hd, -⟩
    cases hd
  by_cases ha : a = .null
  · subst ha
    rw [null_commonSupertype]
    refine .join (fun hclash => hclash.left_ne_null rfl) ?_
    rintro name ⟨n, c, d, hc, -⟩
    cases hc
  by_cases href : ∃ x y, a = .reference x ∧ b = .reference y
  · obtain ⟨x, y, rfl, rfl⟩ := href
    exact joinOutcome_reference x y
  · have hshape : ∀ x y, a = .reference x → b ≠ .reference y := by
      intro x y hax hby
      exact href ⟨x, y, hax, hby⟩
    rw [commonSupertype_incompatible hab ha hb hshape]
    refine .clash ⟨hab, ha, hb, ?_⟩
    cases a <;> cases b <;> simp_all [VerificationType.isReference]

/-! ## Refusals -/

/-- The types are incompatible exactly where they clash. -/
theorem commonSupertype_eq_incompatibleTypes_iff :
    g.commonSupertype a b = .error (.incompatibleTypes a b) ↔ a.Clash b := by
  have hcases := joinOutcome g a b
  constructor
  · intro h
    rw [h] at hcases
    cases hcases with
    | clash hclash => exact hclash
  · intro hclash
    generalize g.commonSupertype a b = outcome at hcases ⊢
    cases hcases with
    | clash _ => rfl
    | missing hmisses => exact absurd hclash hmisses.not_clash
    | join hnone _ => exact absurd hclash hnone

/-- A class is missing exactly where the two types miss it. -/
theorem commonSupertype_eq_missingClass_iff {name : ClassName} :
    g.commonSupertype a b = .error (.missingClass name) ↔ g.Misses a b name := by
  have hcases := joinOutcome g a b
  constructor
  · intro h
    rw [h] at hcases
    cases hcases with
    | missing hmisses => exact hmisses
  · intro hmisses
    generalize g.commonSupertype a b = outcome at hcases ⊢
    cases hcases with
    | clash hclash => exact absurd hclash hmisses.not_clash
    | missing hother => rw [hother.unique hmisses]
    | join _ hnone => exact absurd hmisses (hnone name)

/-- There is a common supertype exactly where neither reason is given. -/
theorem exists_commonSupertype_iff :
    (∃ r, g.commonSupertype a b = .ok r) ↔ ¬ a.Clash b ∧ ∀ name, ¬ g.Misses a b name := by
  have hcases := joinOutcome g a b
  constructor
  · rintro ⟨r, h⟩
    rw [h] at hcases
    cases hcases with
    | join hclash hmisses => exact ⟨hclash, hmisses⟩
  · rintro ⟨hclash, hmisses⟩
    generalize g.commonSupertype a b = outcome at hcases ⊢
    cases hcases with
    | clash h => exact absurd h hclash
    | missing h => exact absurd h (hmisses _)
    | join _ _ => exact ⟨_, rfl⟩

/-- What two slots are refused for is a class that joining their types misses. -/
theorem mergeSlots_eq_error_iff {v w : Slot} {refusal : VerifierError} :
    g.mergeSlots v w = .error refusal ↔
      ∃ s t name, v = .typed s ∧ w = .typed t ∧
        g.commonSupertype s t = .error (.missingClass name) ∧ refusal = .missingClass name := by
  cases v with
  | uninitialized => simp [(mergeSlots_uninitialized w).1]
  | typed s =>
      cases w with
      | uninitialized => simp [(mergeSlots_uninitialized (.typed s)).2]
      | typed t =>
          have hcases := joinOutcome g s t
          rw [mergeSlots_typed]
          constructor
          · intro h
            refine ⟨s, t, ?_⟩
            generalize g.commonSupertype s t = outcome at hcases h ⊢
            cases hcases with
            | clash _ => cases h
            | missing _ =>
                cases h
                exact ⟨_, rfl, rfl, rfl, rfl⟩
            | join _ _ => cases h
          · rintro ⟨_, _, name, ⟨⟩, ⟨⟩, hmissing, rfl⟩
            rw [hmissing]

/-- A common supertype is refused in exactly two cases. The types are incompatible where they
differ, neither is null and one is a primitive; a class is missing where two different classes
at one depth are not both declared, and the first undeclared one is named. In every other case
there is a common supertype. Merging two slots is refused exactly where joining their types
misses a class. -/
theorem commonSupertype_refusals (g : ClassGraph) :
    (∀ a b, (g.commonSupertype a b = .error (.incompatibleTypes a b) ↔ a.Clash b) ∧
      (∀ name, g.commonSupertype a b = .error (.missingClass name) ↔ g.Misses a b name) ∧
      ((∃ r, g.commonSupertype a b = .ok r) ↔ ¬ a.Clash b ∧ ∀ name, ¬ g.Misses a b name)) ∧
    ∀ v w refusal, g.mergeSlots v w = .error refusal ↔
      ∃ s t name, v = .typed s ∧ w = .typed t ∧
        g.commonSupertype s t = .error (.missingClass name) ∧ refusal = .missingClass name := by
  refine ⟨fun a b => ⟨?_, ?_, ?_⟩, ?_⟩
  · exact commonSupertype_eq_incompatibleTypes_iff
  · exact fun name => commonSupertype_eq_missingClass_iff
  · exact exists_commonSupertype_iff
  · exact fun v w refusal => mergeSlots_eq_error_iff

end ClassGraph

/-- Birds are not declared, and it shows at equal depth only. -/
example :
    Pond.graph.commonSupertype (.reference (.objectArray 0 Pond.duck))
        (.reference (.objectArray 0 Pond.bird)) = .error (.missingClass Pond.bird) ∧
      Pond.graph.commonSupertype (.reference (.objectArray 0 Pond.duck))
        (.reference (.objectArray 1 Pond.bird)) = .ok (.reference (.objectArray 0 .object)) := by
  decide

end ClassGraft
