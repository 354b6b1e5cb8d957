import Mathlib.Logic.Function.Iterate
import ClassGraft.Name.Member
import ClassGraft.Proofs.Naming.Fragments

/-!
# Names that bear their source id more than once

A name bears a source id if the id stands in front of it with a separator, and something
comes behind the two. Stripping takes one source id off, and a name that bears none stays as
it is. What is left may bear the source id again, so a further turn of stripping changes
nothing only once all of them are gone.
-/

namespace ClassGraft.Naming

variable {source name rest : Text}

/-- The name is the rest with the source id and a separator in front. -/
def Bears (source name rest : Text) : Prop :=
  source ≠ [] ∧ rest ≠ [] ∧ ∃ c, isSeparator c = true ∧ name = source ++ c :: rest

/-- The name bears the source id as many times, one behind the other. -/
def BearsTimes (source : Text) : Nat → Text → Prop
  | 0, _ => True
  | n + 1, name => ∃ rest, Bears source name rest ∧ BearsTimes source n rest

/-! ## One turn -/

/-- A source id that the name bears is taken off. -/
theorem Bears.stripSource_eq (h : Bears source name rest) : stripSource name source = rest := by
  obtain ⟨hsource, hrest, c, hc, rfl⟩ := h
  obtain ⟨d, tail, rfl⟩ := List.exists_cons_of_ne_nil hrest
  have hfront : source.isPrefixOf? (source ++ c :: d :: tail) = some (c :: d :: tail) :=
    List.isPrefixOf?_eq_some_iff_append_eq.mpr rfl
  rw [stripSource, if_neg hsource, hfront]
  exact if_pos hc

/-- So it is shorter then. -/
theorem Bears.length_lt (h : Bears source name rest) : rest.length < name.length := by
  obtain ⟨_, _, c, _, rfl⟩ := h
  rw [List.length_append, List.length_cons]
  omega

/-- Nothing else is ever taken off. -/
theorem bears_or_stripSource_eq (name source : Text) :
    Bears source name (stripSource name source) ∨ stripSource name source = name := by
  unfold stripSource
  split
  · exact Or.inr rfl
  · next hsource =>
    split
    · next c d rest hfront =>
      have hname : source ++ c :: d :: rest = name :=
        List.isPrefixOf?_eq_some_iff_append_eq.mp hfront
      split
      · next hc => exact Or.inl ⟨hsource, List.cons_ne_nil d rest, c, hc, hname.symm⟩
      · exact Or.inr rfl
    · exact Or.inr rfl

/-- The names that stay as they are bear no source id. -/
theorem stripSource_eq_self_iff :
    stripSource name source = name ↔ ¬ ∃ rest, Bears source name rest := by
  constructor
  · rintro hself ⟨rest, h⟩
    have hlt := h.length_lt
    rw [← h.stripSource_eq, hself] at hlt
    exact Nat.lt_irrefl _ hlt
  · intro hnone
    rcases bears_or_stripSource_eq name source with h | hself
    · exact absurd ⟨_, h⟩ hnone
    · exact hself

/-! ## Further turns -/

/-- A name bears the source id once more than what is left when it is taken off. -/
theorem Bears.bearsTimes_succ_iff (h : Bears source name rest) (n : Nat) :
    BearsTimes source (n + 1) name ↔ BearsTimes source n rest := by
  constructor
  · rintro ⟨other, hother, htimes⟩
    rwa [← h.stripSource_eq, hother.stripSource_eq]
  · exact fun htimes => ⟨rest, h, htimes⟩

/-- One more turn of stripping changes nothing, exactly if the name bears fewer source ids than
there are turns. -/
theorem iterate_stripSource_eq_iff (source : Text) (n : Nat) (name : Text) :
    (stripSource · source)^[n + 1] name = (stripSource · source)^[n] name ↔
      ¬ BearsTimes source (n + 1) name := by
  induction n generalizing name with
  | zero => simp [BearsTimes, stripSource_eq_self_iff]
  | succ n ih =>
      by_cases hbears : ∃ rest, Bears source name rest
      · -- The first turn takes a source id off, and the other turns go on with the rest.
        obtain ⟨rest, h⟩ := hbears
        have hturns : ∀ k,
            (stripSource · source)^[k + 1] name = (stripSource · source)^[k] rest := by
          intro k
          rw [Function.iterate_succ_apply, h.stripSource_eq]
        rw [hturns (n + 1), hturns n, ih rest, h.bearsTimes_succ_iff]
      · have hself : stripSource name source = name := stripSource_eq_self_iff.mpr hbears
        have hfixed : ∀ k, (stripSource · source)^[k] name = name := Function.iterate_fixed hself
        refine iff_of_true ((hfixed _).trans (hfixed _).symm) ?_
        rintro ⟨rest, h, _⟩
        exact hbears ⟨rest, h⟩

/-- Stripping twice is stripping once, exactly unless the name starts with the source id twice,
each time with a separator, and something comes behind them. -/
theorem stripSource_stripSource_eq_iff (name source : Text) :
    stripSource (stripSource name source) source = stripSource name source ↔
      ¬ ∃ c d rest, source ≠ [] ∧ isSeparator c = true ∧ isSeparator d = true ∧ rest ≠ [] ∧
        name = source ++ c :: (source ++ d :: rest) := by
  have htwice : BearsTimes source 2 name ↔
      ∃ c d rest, source ≠ [] ∧ isSeparator c = true ∧ isSeparator d = true ∧ rest ≠ [] ∧
        name = source ++ c :: (source ++ d :: rest) := by
    constructor
    · rintro ⟨_, ⟨hsource, _, c, hc, rfl⟩, rest, ⟨_, hrest, d, hd, rfl⟩, _⟩
      exact ⟨c, d, rest, hsource, hc, hd, hrest, rfl⟩
    · rintro ⟨c, d, rest, hsource, hc, hd, hrest, rfl⟩
      exact ⟨source ++ d :: rest, ⟨hsource, by simp, c, hc, rfl⟩, rest,
        ⟨hsource, hrest, d, hd, rfl⟩, trivial⟩
  rw [← htwice]
  exact iterate_stripSource_eq_iff source 1 name

/-- A handler whose author put the source id in front of its name twice. -/
theorem stripSource_stripSource_ne :
    let name := Text.ofString "mymod_mymod_onTick"
    let source := Text.ofString "mymod"
    IsMemberName name ∧ stripSource name source = Text.ofString "mymod_onTick" ∧
      stripSource (stripSource name source) source ≠ stripSource name source := by
  decide

end ClassGraft.Naming
