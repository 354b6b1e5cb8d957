import Mathlib.Data.List.Nodup
import ClassGraft.Proofs.Hierarchy.Grammar
import ClassGraft.Proofs.Hierarchy.Listing

/-!
# The format of listings

A listing is sound if each line that says something is a well-formed declaration and no name
is declared twice, be it by two lines or by a line and the library. Lines for the root do
not count. Soundness and the graph that sound lines describe do not depend on the order of
the lines: `IsSound` and `Describes` speak of them as a set.

Reading goes line by line. Lines that are sound so far leave a graph that they describe, and
in such a graph a line is refused exactly if it breaks their soundness. So sound listings
are the ones that are read, and in any other one the first line that breaks the soundness of
the lines before it decides the error.
-/

namespace ClassGraft

namespace ClassGraph

variable {g : ClassGraph}

/-- A class is added exactly if its name is new. -/
theorem add_eq_ok_iff {g' : ClassGraph} {e : ClassEntry} :
    g.add e = .ok g' ↔ g.resolve e.name = none ∧ g' = ⟨g.entries ++ [e]⟩ := by
  unfold add
  split
  · next hold =>
    refine iff_of_false (fun h => by cases h) ?_
    rintro ⟨hnone, -⟩
    rw [hnone] at hold
    cases hold
  · next hnew =>
    have hnone : g.resolve e.name = none := by simpa using hnew
    simp [hnone, eq_comm]

theorem isSome_resolve_iff {name : ClassName} :
    (g.resolve name).isSome = true ↔ ∃ e ∈ g.entries, e.name = name := by
  simp [resolve]

/-- If no two entries share a name, the look-up finds exactly the entries. -/
theorem resolve_eq_some_iff_mem (hnodup : (g.entries.map ClassEntry.name).Nodup)
    {name : ClassName} {e : ClassEntry} :
    g.resolve name = some e ↔ e ∈ g.entries ∧ e.name = name := by
  constructor
  · exact fun h => ⟨mem_of_resolve h, name_of_resolve h⟩
  · rintro ⟨hmem, rfl⟩
    obtain ⟨e', hres⟩ := Option.isSome_iff_exists.mp (isSome_resolve_iff.mpr ⟨e, hmem, rfl⟩)
    rw [hres, List.inj_on_of_nodup_map hnodup (mem_of_resolve hres) hmem (name_of_resolve hres)]

/-- The library types have names of their own. -/
theorem nodup_names_libraryTypes : (libraryTypes.map ClassEntry.name).Nodup := by decide

/-- A class that is added brings a name of its own. -/
theorem nodup_names_add {g' : ClassGraph} {e : ClassEntry}
    (hnodup : (g.entries.map ClassEntry.name).Nodup) (h : g.add e = .ok g') :
    (g'.entries.map ClassEntry.name).Nodup := by
  obtain ⟨hnew, rfl⟩ := add_eq_ok_iff.mp h
  have hfresh : e.name ∉ g.entries.map ClassEntry.name := by
    intro hmem
    obtain ⟨f, hf, hname⟩ := List.mem_map.mp hmem
    have hsome := isSome_resolve_iff.mpr ⟨f, hf, hname⟩
    rw [hnew] at hsome
    cases hsome
  simpa using List.Nodup.concat hfresh hnodup

end ClassGraph

namespace Listing

open ClassGraph (libraryTypes)

/-! ## Lines -/

/-- The line is neither blank nor a comment. -/
def Speaks (line : Text) : Prop := isSilent (Text.trim line) = false

/-- The line is well-formed, and this is what it consists of. -/
def Declares (line : Text) (d : Declaration) : Prop :=
  Speaks line ∧ d.IsWellFormed ∧ d.words = tokens (Text.trim line)

/-- The line adds the entry. A line for the root adds none. -/
def Adds (line : Text) (e : ClassEntry) : Prop :=
  ∃ d : Declaration, Declares line d ∧ d.name ≠ .object ∧ d.entry = e

/-- Does a library type or one of the lines have the name? -/
def IsTaken (lines : List Text) (name : ClassName) : Prop :=
  (∃ e ∈ libraryTypes, e.name = name) ∨ ∃ line ∈ lines, ∃ e, Adds line e ∧ e.name = name

/-- What the lines of a listing have to satisfy. -/
structure IsSound (lines : List Text) : Prop where
  /-- Every line that says something is well-formed. -/
  wellFormed : ∀ line ∈ lines, Speaks line → ∃ d, Declares line d
  /-- No two lines add entries of one name. -/
  distinct : lines.Pairwise fun line other =>
    ∀ e f, Adds line e → Adds other f → e.name ≠ f.name
  /-- No line adds an entry with the name of a library type. -/
  sparesLibrary : ∀ line ∈ lines, ∀ e, Adds line e → ∀ f ∈ libraryTypes, f.name ≠ e.name

/-- The graph consists of the library types and of what the lines add. -/
structure Describes (lines : List Text) (g : ClassGraph) : Prop where
  mem_iff : ∀ e, e ∈ g.entries ↔ e ∈ libraryTypes ∨ ∃ line ∈ lines, Adds line e
  /-- Each name has one entry. -/
  nodup : (g.entries.map ClassEntry.name).Nodup

/-- A line that lines before it cannot be followed by, and the error to report. -/
inductive Breaks (before : List Text) (line : Text) : ListingError → Prop
  | malformed {cause : LineError} (hspeaks : Speaks line)
      (hfault : IsFault (tokens (Text.trim line)) cause) :
      Breaks before line (.malformedLine (before.length + 1) cause)
  | duplicate {e : ClassEntry} (hadds : Adds line e) (htaken : IsTaken before e.name) :
      Breaks before line (.refused (.duplicateClass e.name))

variable {lines before : List Text} {line : Text} {g : ClassGraph}

/-- A line adds the entry that is read from it, unless that is the entry of the root. -/
theorem adds_iff {e : ClassEntry} : Adds line e ↔
    Speaks line ∧ readTokens (tokens (Text.trim line)) = .ok e ∧ e.name ≠ .object := by
  rw [readTokens_eq_ok_iff]
  constructor
  · rintro ⟨d, ⟨hspeaks, hd, hwords⟩, hne, rfl⟩
    exact ⟨hspeaks, ⟨d, hd, hwords, rfl⟩, hne⟩
  · rintro ⟨hspeaks, ⟨d, hd, hwords, rfl⟩, hne⟩
    exact ⟨d, ⟨hspeaks, hd, hwords⟩, hne, rfl⟩

theorem Adds.unique {e f : ClassEntry} (he : Adds line e) (hf : Adds line f) : e = f := by
  have hread := (adds_iff.mp he).2.1
  rw [(adds_iff.mp hf).2.1] at hread
  exact (Except.ok.inj hread).symm

/-- A line that says something has a fault unless it is well-formed. -/
theorem exists_declares_iff (hspeaks : Speaks line) :
    (∃ d, Declares line d) ↔ ¬ ∃ cause, IsFault (tokens (Text.trim line)) cause := by
  constructor
  · rintro ⟨d, _, hd, hwords⟩ ⟨cause, hfault⟩
    have hread := hd.readTokens
    rw [hwords, hfault.readTokens] at hread
    cases hread
  · intro hnone
    rcases isWellFormed_or_isFault (tokens (Text.trim line)) with ⟨d, hd, hwords⟩ | hfault
    · exact ⟨d, hspeaks, hd, hwords⟩
    · exact absurd hfault hnone

/-! ## Sound lines -/

theorem isSound_nil : IsSound [] := ⟨by simp, .nil, by simp⟩

/-- One more line leaves lines sound exactly if it does not break them. -/
theorem isSound_concat_iff :
    IsSound (before ++ [line]) ↔ IsSound before ∧ ¬ ∃ err, Breaks before line err := by
  constructor
  · intro h
    have hbefore : IsSound before :=
      ⟨fun l hl => h.wellFormed l (by simp [hl]), (List.pairwise_append.mp h.distinct).1,
        fun l hl => h.sparesLibrary l (by simp [hl])⟩
    refine ⟨hbefore, ?_⟩
    rintro ⟨err, hbreaks⟩
    cases hbreaks with
    | malformed hspeaks hfault =>
        exact (exists_declares_iff hspeaks).mp (h.wellFormed line (by simp) hspeaks) ⟨_, hfault⟩
    | @duplicate e hadds htaken =>
        rcases htaken with ⟨f, hf, hname⟩ | ⟨earlier, hearlier, f, hf, hname⟩
        · exact h.sparesLibrary line (by simp) e hadds f hf hname
        · exact (List.pairwise_append.mp h.distinct).2.2 earlier hearlier line (by simp)
            f e hf hadds hname
  · rintro ⟨h, hnone⟩
    refine ⟨?_, ?_, ?_⟩
    · intro l hl hspeaks
      rcases List.mem_append.mp hl with hl | hl
      · exact h.wellFormed l hl hspeaks
      · obtain rfl := List.mem_singleton.mp hl
        refine (exists_declares_iff hspeaks).mpr ?_
        rintro ⟨cause, hfault⟩
        exact hnone ⟨_, .malformed hspeaks hfault⟩
    · refine List.pairwise_append.mpr ⟨h.distinct, List.pairwise_singleton _ _, ?_⟩
      intro earlier hearlier l hl f e hf he hname
      obtain rfl := List.mem_singleton.mp hl
      exact hnone ⟨_, .duplicate he (.inr ⟨earlier, hearlier, f, hf, hname⟩)⟩
    · intro l hl e he f hf hname
      rcases List.mem_append.mp hl with hl | hl
      · exact h.sparesLibrary l hl e he f hf hname
      · obtain rfl := List.mem_singleton.mp hl
        exact hnone ⟨_, .duplicate he (.inl ⟨f, hf, hname⟩)⟩

/-- Soundness does not depend on the order of the lines. -/
theorem IsSound.perm {others : List Text} (h : IsSound lines) (hperm : others.Perm lines) :
    IsSound others :=
  ⟨fun l hl => h.wellFormed l (hperm.mem_iff.mp hl),
    (hperm.pairwise_iff fun {_ _} hne e f he hf => (hne f e hf he).symm).mpr h.distinct,
    fun l hl => h.sparesLibrary l (hperm.mem_iff.mp hl)⟩

/-! ## Graphs that lines describe -/

theorem describes_library : Describes [] .library :=
  ⟨fun e => by simp [ClassGraph.library], ClassGraph.nodup_names_libraryTypes⟩

/-- A name is taken exactly if the graph has an entry for it. -/
theorem Describes.isTaken_iff (hg : Describes lines g) {name : ClassName} :
    IsTaken lines name ↔ (g.resolve name).isSome = true := by
  rw [ClassGraph.isSome_resolve_iff]
  constructor
  · rintro (⟨e, he, rfl⟩ | ⟨l, hl, e, he, rfl⟩)
    · exact ⟨e, (hg.mem_iff e).mpr (.inl he), rfl⟩
    · exact ⟨e, (hg.mem_iff e).mpr (.inr ⟨l, hl, he⟩), rfl⟩
  · rintro ⟨e, hmem, rfl⟩
    rcases (hg.mem_iff e).mp hmem with he | ⟨l, hl, he⟩
    · exact .inl ⟨e, he, rfl⟩
    · exact .inr ⟨l, hl, e, he, rfl⟩

/-- A line that adds nothing changes nothing. -/
theorem Describes.concat_of_adds_nothing (hg : Describes before g) (hnone : ∀ e, ¬ Adds line e) :
    Describes (before ++ [line]) g := by
  refine ⟨fun e => ?_, hg.nodup⟩
  rw [hg.mem_iff]
  simp [hnone]

/-- A line that adds an entry of a new name adds it to the graph. -/
theorem Describes.concat_of_adds (hg : Describes before g) {e : ClassEntry} (he : Adds line e)
    (hnew : g.resolve e.name = none) : Describes (before ++ [line]) ⟨g.entries ++ [e]⟩ := by
  have honly : ∀ f, Adds line f ↔ f = e := fun f =>
    ⟨fun hf => hf.unique he, by rintro rfl; exact he⟩
  refine ⟨fun f => ?_, ?_⟩
  · simp [hg.mem_iff, honly, or_and_right, exists_or, or_assoc]
  · exact ClassGraph.nodup_names_add hg.nodup (ClassGraph.add_eq_ok_iff.mpr ⟨hnew, rfl⟩)

/-- What a line makes of a graph that the lines before it describe, is described by all of
them. -/
theorem Describes.addLine {g' : ClassGraph} {number : Nat} (hg : Describes before g)
    (h : addLine g (line, number) = .ok g') : Describes (before ++ [line]) g' := by
  simp only [Listing.addLine] at h
  split at h
  · next hsilent =>
    -- A silent line declares nothing.
    cases h
    refine hg.concat_of_adds_nothing fun e he => ?_
    rw [(adds_iff.mp he).1] at hsilent
    cases hsilent
  · next hspeaks =>
    split at h
    · cases h
    · next e hread =>
      split at h
      · next hroot =>
        -- A line for the root is read and dropped.
        cases h
        refine hg.concat_of_adds_nothing fun f hf => ?_
        obtain ⟨-, hread', hne⟩ := adds_iff.mp hf
        rw [hread] at hread'
        cases hread'
        exact hne hroot
      · next hne =>
        have he : Adds line e := adds_iff.mpr ⟨Bool.eq_false_iff.mpr hspeaks, hread, hne⟩
        split at h
        · next g'' hadd =>
          cases h
          obtain ⟨hnew, rfl⟩ := ClassGraph.add_eq_ok_iff.mp hadd
          exact hg.concat_of_adds he hnew
        · cases h

/-- A line is refused by a graph that the lines before it describe exactly if it breaks
them. -/
theorem Describes.addLine_eq_error_iff (hg : Describes before g) {err : ListingError} :
    Listing.addLine g (line, before.length + 1) = .error err ↔ Breaks before line err := by
  constructor
  · intro h
    simp only [Listing.addLine] at h
    split at h
    · cases h
    · next hspeaks =>
      have hspeaks : Speaks line := Bool.eq_false_iff.mpr hspeaks
      split at h
      · next cause hread =>
        cases h
        exact .malformed hspeaks (readTokens_eq_error_iff.mp hread)
      · next e hread =>
        split at h
        · cases h
        · next hne =>
          split at h
          · cases h
          · next refusal hadd =>
            cases h
            obtain ⟨hsome, rfl⟩ := ClassGraph.add_eq_error_iff.mp hadd
            exact .duplicate (adds_iff.mpr ⟨hspeaks, hread, hne⟩) (hg.isTaken_iff.mpr hsome)
  · intro h
    cases h with
    | malformed hspeaks hfault =>
        have hspeaks : isSilent (Text.trim line) = false := hspeaks
        simp [Listing.addLine, hspeaks, hfault.readTokens]
    | @duplicate e hadds htaken =>
        obtain ⟨hspeaks, hread, hne⟩ := adds_iff.mp hadds
        have hspeaks : isSilent (Text.trim line) = false := hspeaks
        have hadd := ClassGraph.add_eq_error_iff.mpr ⟨hg.isTaken_iff.mp htaken, rfl⟩
        simp [Listing.addLine, hspeaks, hread, hne, hadd]

/-- Two orders of the same lines describe the same graph. -/
theorem Describes.perm {others : List Text} {g' : ClassGraph} (hg : Describes lines g)
    (hg' : Describes others g') (hperm : others.Perm lines) : g'.entries.Perm g.entries := by
  -- Neither list has an entry twice, so it is enough that they have the same entries.
  refine (List.perm_ext_iff_of_nodup (.of_map _ hg'.nodup) (.of_map _ hg.nodup)).mpr fun e => ?_
  rw [hg'.mem_iff, hg.mem_iff]
  simp only [hperm.mem_iff]

/-- Graphs with the same entries answer look-ups alike, if no two entries share a name. -/
theorem Describes.resolve_eq {others : List Text} {g' : ClassGraph} (hg : Describes lines g)
    (hg' : Describes others g') (hperm : others.Perm lines) (name : ClassName) :
    g'.resolve name = g.resolve name := by
  refine Option.ext fun e => ?_
  rw [ClassGraph.resolve_eq_some_iff_mem hg'.nodup, ClassGraph.resolve_eq_some_iff_mem hg.nodup,
    (hg.perm hg' hperm).mem_iff]

/-! ## Reading line by line -/

/-- The graph that is left after some lines, if none is refused. -/
def readLines (lines : List Text) : Except ListingError ClassGraph :=
  (lines.zipIdx 1).foldlM addLine .library

theorem readLines_concat_eq_ok_iff {g' : ClassGraph} : readLines (before ++ [line]) = .ok g' ↔
    ∃ g, readLines before = .ok g ∧ addLine g (line, before.length + 1) = .ok g' := by
  unfold readLines
  rw [List.zipIdx_append, List.zipIdx_singleton, Runs.foldlM_concat_eq_ok_iff, Nat.add_comm 1]

/-- Lines that are read describe the graph. -/
theorem describes_of_readLines (h : readLines lines = .ok g) : Describes lines g := by
  induction lines using List.reverseRecOn generalizing g with
  | nil =>
      cases h
      exact describes_library
  | append_singleton before line ih =>
      obtain ⟨m, hbefore, hline⟩ := readLines_concat_eq_ok_iff.mp h
      exact (ih hbefore).addLine hline

/-- The lines that are read are the sound ones. -/
theorem exists_readLines_iff : (∃ g, readLines lines = .ok g) ↔ IsSound lines := by
  induction lines using List.reverseRecOn with
  | nil => exact iff_of_true ⟨.library, rfl⟩ isSound_nil
  | append_singleton before line ih =>
      -- The lines before leave a graph that they describe, and it decides on the last line.
      rw [isSound_concat_iff, ← ih]
      constructor
      · rintro ⟨g', h⟩
        obtain ⟨g, hbefore, hline⟩ := readLines_concat_eq_ok_iff.mp h
        refine ⟨⟨g, hbefore⟩, ?_⟩
        rintro ⟨err, hbreaks⟩
        have hrefused := (describes_of_readLines hbefore).addLine_eq_error_iff.mpr hbreaks
        rw [hline] at hrefused
        cases hrefused
      · rintro ⟨⟨g, hbefore⟩, hnone⟩
        cases hline : addLine g (line, before.length + 1) with
        | ok g' => exact ⟨g', readLines_concat_eq_ok_iff.mpr ⟨g, hbefore, hline⟩⟩
        | error err =>
            have hbreaks := (describes_of_readLines hbefore).addLine_eq_error_iff.mp hline
            exact absurd ⟨err, hbreaks⟩ hnone

/-- Lines are refused where a line breaks the sound lines before it. -/
theorem readLines_eq_error_iff {err : ListingError} : readLines lines = .error err ↔
    ∃ before line after, lines = before ++ line :: after ∧ IsSound before ∧
      Breaks before line err := by
  unfold readLines
  rw [Runs.foldlM_eq_error_iff]
  constructor
  · rintro ⟨pre, x, post, m, hsplit, hpre, hx⟩
    obtain ⟨before, rest, rfl, rfl, hrest⟩ := List.zipIdx_eq_append_iff.mp hsplit
    obtain ⟨line, after, rfl, rfl, rfl⟩ := List.zipIdx_eq_cons_iff.mp hrest.symm
    refine ⟨before, line, after, rfl, exists_readLines_iff.mp ⟨m, hpre⟩, ?_⟩
    -- Numbers start at one, so the line has the number of the lines before it plus one.
    rw [Nat.add_comm 1] at hx
    exact (describes_of_readLines hpre).addLine_eq_error_iff.mp hx
  · rintro ⟨before, line, after, rfl, hsound, hbreaks⟩
    obtain ⟨g, hbefore⟩ := exists_readLines_iff.mpr hsound
    have hrefused := (describes_of_readLines hbefore).addLine_eq_error_iff.mpr hbreaks
    refine ⟨before.zipIdx 1, (line, before.length + 1), after.zipIdx (before.length + 2), g, ?_,
      hbefore, hrefused⟩
    rw [List.zipIdx_append, List.zipIdx_cons, Nat.add_comm 1]

end Listing

/-! ## Listings -/

/-- A listing is read exactly if its lines are sound. Then the graph is the one they
describe, whatever their order; else the first line that breaks the lines before it decides
the error. -/
theorem ClassGraph.ofListing_spec (listing : Text) :
    ((∃ g, ofListing listing = .ok g) ↔ Listing.IsSound (Listing.lines listing)) ∧
      (∀ g, ofListing listing = .ok g → Listing.Describes (Listing.lines listing) g) ∧
      (∀ other, (Listing.lines other).Perm (Listing.lines listing) →
        ∀ g, ofListing listing = .ok g → ∃ g', ofListing other = .ok g' ∧
          g'.entries.Perm g.entries ∧ ∀ name, g'.resolve name = g.resolve name) ∧
      ∀ err, ofListing listing = .error err ↔ ∃ before line after,
        Listing.lines listing = before ++ line :: after ∧ Listing.IsSound before ∧
          Listing.Breaks before line err := by
  refine ⟨Listing.exists_readLines_iff, fun _ => Listing.describes_of_readLines, ?_,
    fun _ => Listing.readLines_eq_error_iff⟩
  intro other hperm g h
  have hsound : Listing.IsSound (Listing.lines listing) :=
    Listing.exists_readLines_iff.mp ⟨g, h⟩
  obtain ⟨g', h'⟩ := Listing.exists_readLines_iff.mpr (hsound.perm hperm)
  have hg := Listing.describes_of_readLines h
  have hg' := Listing.describes_of_readLines h'
  exact ⟨g', h', hg.perm hg' hperm, hg.resolve_eq hg' hperm⟩

namespace Zoo

/-- The lines of the zoo are sound and describe its graph; a second line for the same dog,
behind a comment, breaks them. -/
theorem isSound_listing :
    let twice := Text.ofString "class Dog\n# again\nmixin class Dog"
    (Listing.IsSound (Listing.lines listing) ∧
      Listing.Describes (Listing.lines listing) graph) ∧
      ∃ before line after, Listing.lines twice = before ++ line :: after ∧
        Listing.IsSound before ∧ Listing.Breaks before line (.refused (.duplicateClass dog)) := by
  intro twice
  have hzoo := ClassGraph.ofListing_spec listing
  have htwice := ClassGraph.ofListing_spec twice
  have hrefused : ClassGraph.ofListing twice = .error (.refused (.duplicateClass dog)) := by rfl
  exact ⟨⟨hzoo.1.mp ⟨graph, ofListing_listing⟩, hzoo.2.1 graph ofListing_listing⟩,
    (htwice.2.2.2 _).mp hrefused⟩

end Zoo

end ClassGraft
