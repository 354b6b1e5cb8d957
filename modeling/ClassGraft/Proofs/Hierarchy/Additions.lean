import ClassGraft.Proofs.Hierarchy.Format

/-!
# Declaring several classes

Classes that are declared one after the other are all declared, or those in front of the
first one whose name is taken, which is the one to be reported. Nothing is taken back then:
the library types in front of the one that was there already stay in the graph. So a run over
them that is refused leaves the graph as it was only where the root, the first of them, was
there.
-/

namespace ClassGraft.ClassGraph

variable {g m g' : ClassGraph} {e : ClassEntry} {new : List ClassEntry}

/-- The second graph has the new entries behind those of the first, and nothing else: they are
found under their names, which were free, and every other name is looked up as before. -/
structure AddsExactly (g g' : ClassGraph) (new : List ClassEntry) : Prop where
  entries : g'.entries = g.entries ++ new
  resolve_new : ∀ e ∈ new, g.resolve e.name = none ∧ g'.resolve e.name = some e
  resolve_other : ∀ name, name ∉ new.map ClassEntry.name → g'.resolve name = g.resolve name

theorem AddsExactly.refl (g : ClassGraph) : AddsExactly g g [] :=
  ⟨by simp, by simp, fun _ _ => rfl⟩

/-- Entries that are added are found under their names, and all else as before. -/
theorem AddsExactly.resolve_cases (h : AddsExactly g g' new) (name : ClassName) :
    g'.resolve name = g.resolve name ∨
      ∃ e ∈ new, e.name = name ∧ g.resolve name = none ∧ g'.resolve name = some e := by
  by_cases hmem : name ∈ new.map ClassEntry.name
  · obtain ⟨e, he, rfl⟩ := List.mem_map.mp hmem
    obtain ⟨hnone, hfound⟩ := h.resolve_new e he
    exact Or.inr ⟨e, he, rfl, hnone, hfound⟩
  · exact Or.inl (h.resolve_other name hmem)

/-- A graph stays as it was only if nothing is added to it. -/
theorem AddsExactly.eq_iff (h : AddsExactly g g' new) : g' = g ↔ new = [] := by
  constructor
  · rintro rfl
    exact List.self_eq_append_right.mp h.entries
  · rintro rfl
    have hentries : g'.entries = g.entries := by rw [h.entries, List.append_nil]
    cases g
    cases g'
    exact congrArg ClassGraph.mk hentries

/-- One more entry is declared in front. -/
theorem AddsExactly.cons (hadd : g.add e = .ok m) (h : AddsExactly m g' new) :
    AddsExactly g g' (e :: new) := by
  obtain ⟨hfree, hm⟩ := add_eq_ok_iff.mp hadd
  have hresolve := resolve_add hadd
  refine ⟨?_, ?_, ?_⟩
  · rw [h.entries, hm]
    simp
  · intro f hf
    rcases List.mem_cons.mp hf with rfl | hf
    · -- No later entry takes the name over, since the names of those were free.
      have hfound : m.resolve f.name = some f := by rw [hresolve, if_pos rfl]
      refine ⟨hfree, ?_⟩
      rw [h.resolve_other f.name, hfound]
      intro hmem
      obtain ⟨other, hother, hname⟩ := List.mem_map.mp hmem
      have hnone := (h.resolve_new other hother).1
      rw [hname, hfound] at hnone
      cases hnone
    · obtain ⟨hnone, hfound⟩ := h.resolve_new f hf
      refine ⟨?_, hfound⟩
      rw [hresolve] at hnone
      split at hnone
      · cases hnone
      · exact hnone
  · intro name hname
    obtain ⟨hne, hnew⟩ := not_or.mp fun hmem => hname (List.mem_cons.mpr hmem)
    rw [h.resolve_other name hnew, hresolve, if_neg hne]

/-- Entries of distinct names are all declared, or the ones in front of the first whose name is
taken. -/
theorem addEach_cases (g : ClassGraph) (es : List ClassEntry)
    (hnodup : (es.map ClassEntry.name).Nodup) :
    ((∀ e ∈ es, g.resolve e.name = none) ∧ (g.addEach es).2 = none ∧
        AddsExactly g (g.addEach es).1 es) ∨
      ∃ before e after, es = before ++ e :: after ∧ (∀ f ∈ before, g.resolve f.name = none) ∧
        (g.resolve e.name).isSome = true ∧ (g.addEach es).2 = some (.duplicateClass e.name) ∧
        AddsExactly g (g.addEach es).1 before := by
  induction es generalizing g with
  | nil => exact Or.inl ⟨by simp, rfl, .refl g⟩
  | cons e es ih =>
      rw [List.map_cons, List.nodup_cons] at hnodup
      cases hadd : g.add e with
      | error refusal =>
          obtain ⟨htaken, rfl⟩ := add_eq_error_iff.mp hadd
          have hstop : g.addEach (e :: es) = (g, some (.duplicateClass e.name)) := by
            rw [addEach, hadd]
          rw [hstop]
          exact Or.inr ⟨[], e, es, rfl, by simp, htaken, rfl, .refl g⟩
      | ok m =>
          have hgo : g.addEach (e :: es) = m.addEach es := by rw [addEach, hadd]
          have hfree : g.resolve e.name = none := (add_eq_ok_iff.mp hadd).1
          -- The names behind are distinct from the new one, so they are looked up as before.
          have hsame : ∀ f ∈ es, m.resolve f.name = g.resolve f.name := by
            intro f hf
            rw [resolve_add hadd, if_neg]
            exact fun heq => hnodup.1 (heq ▸ List.mem_map_of_mem hf)
          rw [hgo]
          rcases ih m hnodup.2 with ⟨hnone, hend, hadds⟩ |
            ⟨before, f, after, rfl, hbefore, htaken, hend, hadds⟩
          · refine Or.inl ⟨?_, hend, .cons hadd hadds⟩
            intro f hf
            rcases List.mem_cons.mp hf with rfl | hf
            · exact hfree
            · rw [← hsame f hf, hnone f hf]
          · refine Or.inr ⟨e :: before, f, after, rfl, ?_, ?_, hend, .cons hadd hadds⟩
            · intro h hh
              rcases List.mem_cons.mp hh with rfl | hh
              · exact hfree
              · rw [← hsame h (List.mem_append_left _ hh), hbefore h hh]
            · rw [← hsame f (by simp), htaken]

/-- The library types are all declared, or those in front of the first one that was there, which
is reported. The graph is left as it was exactly where that one is the root. -/
theorem addLibraryTypes_outcome (g : ClassGraph) :
    (((∀ e ∈ libraryTypes, g.resolve e.name = none) ∧ g.addLibraryTypes.2 = none ∧
          AddsExactly g g.addLibraryTypes.1 libraryTypes) ∨
        ∃ before e after, libraryTypes = before ++ e :: after ∧
          (∀ f ∈ before, g.resolve f.name = none) ∧ (g.resolve e.name).isSome = true ∧
          g.addLibraryTypes.2 = some (.duplicateClass e.name) ∧
          AddsExactly g g.addLibraryTypes.1 before) ∧
      (g.addLibraryTypes.1 = g ↔ (g.resolve .object).isSome = true) := by
  have hcases := addEach_cases g libraryTypes nodup_names_libraryTypes
  refine ⟨hcases, ?_⟩
  rcases hcases with ⟨hnone, _, hadds⟩ | ⟨before, e, after, hsplit, hbefore, htaken, _, hadds⟩
  · have hfree : g.resolve .object = none := hnone .root (.head _)
    exact iff_of_false (fun hsame => by cases hadds.eq_iff.mp hsame) (by simp [hfree])
  · rw [show g.addLibraryTypes.1 = g ↔ before = [] from hadds.eq_iff]
    cases before with
    | nil =>
        obtain ⟨rfl, _⟩ := List.cons.inj hsplit
        exact iff_of_true rfl htaken
    | cons f before =>
        obtain ⟨rfl, _⟩ := List.cons.inj hsplit
        have hfree : g.resolve .object = none := hbefore .root (by simp)
        exact iff_of_false (List.cons_ne_nil _ _) (by simp [hfree])

/-- The class of strings is there, and the five library types in front of it are added before it
is found to be. -/
theorem not_allOrNothing_addLibraryTypes :
    let g : ClassGraph := ⟨[.below .object .string]⟩
    g.addLibraryTypes.2 = some (.duplicateClass .string) ∧
      ¬ ((g.addLibraryTypes.2 = none ∧ AddsExactly g g.addLibraryTypes.1 libraryTypes) ∨
        ((∃ name, g.addLibraryTypes.2 = some (.duplicateClass name)) ∧
          g.addLibraryTypes.1 = g)) := by
  intro g
  have hend : g.addLibraryTypes.2 = some (.duplicateClass .string) := by decide
  have hchanged : g.addLibraryTypes.1 ≠ g := by decide
  refine ⟨hend, ?_⟩
  rintro (⟨hnone, _⟩ | ⟨_, hsame⟩)
  · rw [hend] at hnone
    cases hnone
  · exact hchanged hsame

end ClassGraft.ClassGraph
