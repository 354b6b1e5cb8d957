import ClassGraft.Hierarchy.Listing
import ClassGraft.Proofs.Hierarchy.Ancestors
import ClassGraft.Proofs.Runs

/-!
# Graphs that listings describe

Every graph read from a listing is rooted: the library types are, a line for the
root adds nothing, and an interface line has no clause that names a superclass.
The last point is an invariant of reading the words of a line, the others of
adding one line to a graph.

`IsLegal` says what a listing has to satisfy besides for its graph to be a
hierarchy: no cycle, no superclass left out, and no class below an interface.
-/

namespace ClassGraft

open Relation

/-! ## Reading a line -/

namespace Listing

/-- As long as an interface is read, no clause names superclasses and the
superclass is the root. -/
def Draft.KeepsRoot (d : Draft) : Prop :=
  d.entry.isInterface = true → d.clause ≠ .superclass ∧ d.entry.superclass = some .object

/-- On an interface line no keyword begins a superclass clause. -/
theorem clauseOf?_interface_ne {token : Text} : clauseOf? true token ≠ some .superclass := by
  unfold clauseOf?
  split
  · simp
  · split <;> simp

/-- Each word keeps the superclass of an interface. -/
theorem Draft.KeepsRoot.addToken {d d' : Draft} {token : Text} (hd : d.KeepsRoot)
    (h : d.addToken token = .ok d') : d'.KeepsRoot := by
  unfold Draft.addToken at h
  split at h
  · next clause hclause =>
    cases h
    intro hint
    refine ⟨?_, (hd hint).2⟩
    have hint : d.entry.isInterface = true := hint
    rw [hint] at hclause
    rintro rfl
    exact clauseOf?_interface_ne hclause
  · split at h
    · next name _ =>
      unfold Draft.addName at h
      split at h
      · cases h
      · next hclause =>
        cases h
        intro hint
        have hint : d.entry.isInterface = true := by
          simpa [ClassEntry.addInterface, apply_ite ClassEntry.isInterface] using hint
        obtain ⟨hne, hsuper⟩ := hd hint
        exact ⟨hne, by simpa [ClassEntry.addInterface, apply_ite ClassEntry.superclass] using hsuper⟩
      · next hclause =>
        split at h
        · cases h
        · cases h
          intro hint
          exact absurd hclause (hd hint).1
    · cases h

/-- An interface line declares an interface below the root. -/
theorem superclass_of_readDeclaration {isMixin : Bool} {words : List Text} {e : ClassEntry}
    (h : readDeclaration isMixin words = .ok e) (hint : e.isInterface = true) :
    e.superclass = some .object := by
  unfold readDeclaration at h
  split at h
  · cases h
  · split at h
    · split at h
      · cases h
      · split at h
        · cases h
        · obtain ⟨d, hrun, rfl⟩ := Runs.map_eq_ok_iff.mp h
          have hkeeps : d.KeepsRoot :=
            Runs.foldlM_induction (P := Draft.KeepsRoot)
              (fun _ _ _ _ hd hstep => hd.addToken hstep) (fun _ => ⟨by simp, rfl⟩) hrun
          exact (hkeeps hint).2
    · cases h

/-- So does a whole line of words. -/
theorem superclass_of_readTokens {words : List Text} {e : ClassEntry}
    (h : readTokens words = .ok e) (hint : e.isInterface = true) :
    e.superclass = some .object := by
  unfold readTokens at h
  split at h
  · cases h
  · split at h
    · exact superclass_of_readDeclaration h hint
    · exact superclass_of_readDeclaration h hint

end Listing

namespace ClassGraph

/-! ## Adding a line -/

/-- The library types form a rooted graph. -/
theorem isRooted_library : library.IsRooted := by
  have hall : ∀ e ∈ library.entries, e.isInterface = true → e.superclass = some .object := by
    decide
  refine ⟨by decide, ?_⟩
  intro name hint
  unfold isInterface at hint
  obtain ⟨e, hres, he⟩ := (Option.any_eq_true _ _).mp hint
  simp [superclass, hres, hall e (mem_of_resolve hres) he]

/-- A new class below the root leaves the graph rooted. -/
theorem IsRooted.add {g g' : ClassGraph} {e : ClassEntry} (hg : g.IsRooted)
    (hne : e.name ≠ .object) (he : e.isInterface = true → e.superclass = some .object)
    (h : g.add e = .ok g') : g'.IsRooted := by
  have hres := resolve_add h
  refine ⟨?_, ?_⟩
  · rw [hres, if_neg (Ne.symm hne)]
    exact hg.root
  · intro name hint
    by_cases hname : name = e.name
    · have hentry : g'.resolve name = some e := by rw [hres, if_pos hname]
      simp only [isInterface, hentry, Option.any_some] at hint
      simp [superclass, hentry, he hint]
    · have hentry : g'.resolve name = g.resolve name := by rw [hres, if_neg hname]
      have hold := hg.superclass_interface name (by simpa [isInterface, hentry] using hint)
      simpa [superclass, hentry] using hold

/-- A line leaves the graph rooted. -/
theorem IsRooted.addLine {g g' : ClassGraph} {line : Text × Nat} (hg : g.IsRooted)
    (h : Listing.addLine g line = .ok g') : g'.IsRooted := by
  simp only [Listing.addLine] at h
  split at h
  · cases h
    exact hg
  · split at h
    · cases h
    · next entry hread =>
      split at h
      · cases h
        exact hg
      · next hne =>
        split at h
        · next g'' hadd =>
          cases h
          exact hg.add hne (Listing.superclass_of_readTokens hread) hadd
        · cases h

/-- A listing describes a rooted graph. -/
theorem isRooted_of_ofListing {listing : Text} {g : ClassGraph} (h : ofListing listing = .ok g) :
    g.IsRooted :=
  Runs.foldlM_induction (P := IsRooted) (fun _ _ _ _ hg hstep => hg.addLine hstep)
    isRooted_library h

theorem isRooted_of_isListed {g : ClassGraph} (h : ∃ listing, ofListing listing = .ok g) :
    g.IsRooted := by
  obtain ⟨_, hlisting⟩ := h
  exact isRooted_of_ofListing hlisting

/-! ## Legal graphs -/

/-- The graph of a listing that describes a hierarchy. -/
structure IsLegal (g : ClassGraph) : Prop where
  /-- The graph was read from a listing. -/
  isListed : ∃ listing, ofListing listing = .ok g
  /-- Superclass and interface links have no cycle. -/
  isAcyclic : ∀ a, ¬ TransGen (g.IsLink true) a a
  /-- Every superclass named in the graph is declared in it. -/
  declaresSuperclasses : ∀ a b, g.Extends a b → (g.resolve b).isSome
  /-- No class has an interface as its superclass. -/
  extendsNoInterface : ∀ a b, g.isInterface a = false → g.Extends a b → g.isInterface b = false

theorem IsLegal.isRooted {g : ClassGraph} (hg : g.IsLegal) : g.IsRooted :=
  isRooted_of_isListed hg.isListed

/-- A graph whose links all go down in rank has no cycle. -/
theorem isAcyclic_of_rank {g : ClassGraph} {rank : ClassName → Nat}
    (h : ∀ e ∈ g.entries, ∀ n ∈ links true e, rank n < rank e.name) (a : ClassName) :
    ¬ TransGen (g.IsLink true) a a := by
  have hdown : ∀ b c, TransGen (g.IsLink true) b c → rank c < rank b := by
    intro b c hpath
    induction hpath with
    | single hlink =>
        obtain ⟨e, hres, hmem⟩ := hlink
        exact name_of_resolve hres ▸ h e (mem_of_resolve hres) _ hmem
    | tail _ hlink ih =>
        obtain ⟨e, hres, hmem⟩ := hlink
        exact lt_trans (name_of_resolve hres ▸ h e (mem_of_resolve hres) _ hmem) ih
  intro hcycle
  exact lt_irrefl _ (hdown a a hcycle)

end ClassGraph

/-! ## A small hierarchy

Two classes below the root that share an interface: the smallest hierarchy in
which merging depends on the order. -/

namespace Zoo

/-- The listing of the hierarchy. -/
def listing : Text :=
  Text.ofString "interface Pet\nclass Dog implements Pet\nclass Cat implements Pet"

def pet : ClassName := .literal "Pet"

def dog : ClassName := .literal "Dog"

def cat : ClassName := .literal "Cat"

/-- The graph of the hierarchy. -/
def graph : ClassGraph :=
  ⟨ClassGraph.libraryTypes ++
    [.interface pet,
      { ClassEntry.below .object dog with interfaces := [pet] },
      { ClassEntry.below .object cat with interfaces := [pet] }]⟩

theorem ofListing_listing : ClassGraph.ofListing listing = .ok graph := by rfl

/-- The names of the graph, each after all that it links to. -/
def names : List ClassName :=
  [.object, .cloneable, .serializable, .charSequence, .comparable, .string, .number, .integer,
    pet, dog, cat]

theorem isLegal_graph : graph.IsLegal := by
  have hrank : ∀ e ∈ graph.entries, ∀ n ∈ ClassGraph.links true e,
      names.idxOf n < names.idxOf e.name := by decide
  have hsupers : ∀ e ∈ graph.entries, ∀ b ∈ e.superclass,
      (graph.resolve b).isSome ∧ (graph.isInterface b = false) := by decide
  refine ⟨⟨listing, ofListing_listing⟩, ClassGraph.isAcyclic_of_rank hrank, ?_, ?_⟩
  · intro a b hab
    obtain ⟨e, hres, hsuper⟩ := ClassGraph.extends_iff.mp hab
    exact (hsupers e (ClassGraph.mem_of_resolve hres) b hsuper).1
  · intro a b _ hab
    obtain ⟨e, hres, hsuper⟩ := ClassGraph.extends_iff.mp hab
    exact (hsupers e (ClassGraph.mem_of_resolve hres) b hsuper).2

end Zoo

end ClassGraft
