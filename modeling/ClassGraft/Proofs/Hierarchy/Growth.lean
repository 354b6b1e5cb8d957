import ClassGraft.Proofs.Hierarchy.Additions

/-!
# Graphs that grow

A graph is changed by declaring a class, by declaring the library types, and by adding an
interface or a note to a class that is there. Whatever the order of the changes, and also
where some are refused, a class that is there stays, and its entry only gains interfaces, at
the end of their list, and notes, under keys that had none.

What a change can do is said once, for the look-up of one name (`NameStep`): nothing, a class that
is new, one more interface, or one more note. What each of these keeps, a run of changes keeps.
-/

namespace ClassGraft

/-! ## What entries gain -/

namespace ClassEntry

/-- What may change about an entry: interfaces come behind those that are there, and keys without
a note are given one. -/
structure GrowsInto (e e' : ClassEntry) : Prop where
  name : e'.name = e.name
  superclass : e'.superclass = e.superclass
  isInterface : e'.isInterface = e.isInterface
  isMixin : e'.isMixin = e.isMixin
  interfaces : e.interfaces <+: e'.interfaces
  decorations : ∀ key value, e.decorations.get? key = some value →
    e'.decorations.get? key = some value

variable {e e' e'' : ClassEntry}

theorem GrowsInto.refl (e : ClassEntry) : e.GrowsInto e :=
  ⟨rfl, rfl, rfl, rfl, List.prefix_rfl, fun _ _ => id⟩

theorem GrowsInto.trans (h : e.GrowsInto e') (h' : e'.GrowsInto e'') : e.GrowsInto e'' where
  name := h'.name.trans h.name
  superclass := h'.superclass.trans h.superclass
  isInterface := h'.isInterface.trans h.isInterface
  isMixin := h'.isMixin.trans h.isMixin
  interfaces := h.interfaces.trans h'.interfaces
  decorations := fun key value hvalue => h'.decorations key value (h.decorations key value hvalue)

theorem growsInto_addInterface (e : ClassEntry) (i : ClassName) :
    e.GrowsInto (e.addInterface i) := by
  unfold addInterface
  split
  · exact .refl e
  · exact ⟨rfl, rfl, rfl, rfl, List.prefix_append _ _, fun _ _ => id⟩

theorem decorations_addInterface (e : ClassEntry) (i : ClassName) :
    (e.addInterface i).decorations = e.decorations := by
  unfold addInterface
  split <;> rfl

theorem nodup_interfaces_addInterface (he : e.interfaces.Nodup) (i : ClassName) :
    (e.addInterface i).interfaces.Nodup := by
  rw [interfaces_addInterface]
  split
  · exact he
  · next hnew => simpa using List.Nodup.concat hnew he

/-- A key keeps its note, and one without a note takes the new one. -/
theorem get?_decorate (e : ClassEntry) (key value other : String) :
    (e.decorate key value).decorations.get? other
      = (e.decorations.get? other).or ([(key, value)].lookup other) := by
  show (e.decorations.put key value).get? other = _
  rw [Decorations.get?_put]
  by_cases heq : other = key
  · subst heq
    cases e.decorations.get? other <;> simp
  · have hne : (other == key) = false := by simpa using heq
    simp [heq, hne, List.lookup_cons]

theorem growsInto_decorate (e : ClassEntry) (key value : String) :
    e.GrowsInto (e.decorate key value) := by
  refine ⟨rfl, rfl, rfl, rfl, List.prefix_rfl, ?_⟩
  intro other v hv
  rw [get?_decorate, hv, Option.some_or]

end ClassEntry

/-! ## Entries that are put together -/

/-- A class as it is put together before it is declared: its interfaces and notes are added one
by one, as they are to a class that is there. -/
structure Sketch where
  name : ClassName
  superclass : Option ClassName
  isInterface : Bool := false
  isMixin : Bool := false
  /-- The interfaces to add, in order, with any repetitions. -/
  interfaces : List ClassName := []
  /-- The notes to make, in order, also under a key that has one. -/
  notes : List (String × String) := []

namespace Sketch

/-- The class without its interfaces and notes. -/
def bare (s : Sketch) : ClassEntry where
  name := s.name
  superclass := s.superclass
  isInterface := s.isInterface
  isMixin := s.isMixin

/-- The class with its interfaces, but without its notes. -/
def unnoted (s : Sketch) : ClassEntry := s.interfaces.foldl ClassEntry.addInterface s.bare

/-- The entry of the class. -/
def entry (s : Sketch) : ClassEntry :=
  s.notes.foldl (fun e note => e.decorate note.1 note.2) s.unnoted

theorem interfaces_entry (s : Sketch) : s.entry.interfaces = s.unnoted.interfaces :=
  List.foldlRecOn (motive := fun e : ClassEntry => e.interfaces = s.unnoted.interfaces) s.notes _
    rfl fun _ he _ _ => he

theorem growsInto_unnoted (s : Sketch) : s.bare.GrowsInto s.unnoted :=
  List.foldlRecOn (motive := s.bare.GrowsInto) s.interfaces _ (.refl s.bare)
    fun _ he i _ => he.trans (ClassEntry.growsInto_addInterface _ i)

theorem growsInto_entry (s : Sketch) : s.bare.GrowsInto s.entry :=
  List.foldlRecOn (motive := s.bare.GrowsInto) s.notes _ s.growsInto_unnoted
    fun _ he note _ => he.trans (ClassEntry.growsInto_decorate _ note.1 note.2)

theorem nodup_interfaces_entry (s : Sketch) : s.entry.interfaces.Nodup := by
  rw [interfaces_entry]
  exact List.foldlRecOn (motive := fun e : ClassEntry => e.interfaces.Nodup) s.interfaces _
    List.nodup_nil fun _ he i _ => ClassEntry.nodup_interfaces_addInterface he i

/-- A key has the value of the first note that is made under it. -/
theorem get?_entry (s : Sketch) (key : String) :
    s.entry.decorations.get? key = s.notes.lookup key := by
  have hnone : s.unnoted.decorations = {} :=
    List.foldlRecOn (motive := fun e : ClassEntry => e.decorations = {}) s.interfaces _ rfl
      fun e he i _ => (e.decorations_addInterface i).trans he
  have hall : ∀ (notes : List (String × String)) (e : ClassEntry),
      (notes.foldl (fun e note => e.decorate note.1 note.2) e).decorations.get? key
        = (e.decorations.get? key).or (notes.lookup key) := by
    intro notes
    induction notes with
    | nil => simp
    | cons note notes ih =>
        intro e
        rw [List.foldl_cons, ih, ClassEntry.get?_decorate, Option.or_assoc, ← List.lookup_append]
        rfl
  rw [entry, hall, hnone]
  rfl

end Sketch

/-! ## Changes -/

namespace ClassGraph

/-- A change to a graph. -/
inductive Change where
  | declare (s : Sketch)
  | declareLibrary
  | addInterface (name i : ClassName)
  | decorate (name : ClassName) (key value : String)

/-- Change a graph. A declaration may be refused; nothing is added to a class that is not there. -/
def change (g : ClassGraph) : Change → Option HierarchyError × ClassGraph
  | .declare s => (g.addEach [s.entry]).swap
  | .declareLibrary => g.addLibraryTypes.swap
  | .addInterface name i => (none, g.addInterface name i)
  | .decorate name key value => (none, g.decorate name key value)

/-- The notes that a change makes on a class: those that it is declared with, and one that is made
while it is there. -/
def notesOn (g : ClassGraph) (name : ClassName) : Change → List (String × String)
  | .declare s => if s.name = name ∧ (g.resolve name).isNone then s.notes else []
  | .declareLibrary => []
  | .addInterface _ _ => []
  | .decorate other key value =>
    if other = name ∧ (g.resolve name).isSome then [(key, value)] else []

/-- The notes that are made on a class along a run of changes, in order. -/
def notesAlong (g : ClassGraph) (name : ClassName) : List Change → List (String × String)
  | [] => []
  | c :: cs => g.notesOn name c ++ (g.change c).2.notesAlong name cs

/-- What a change can do to the look-up of one name, and the notes that it makes on the class. -/
inductive NameStep : Option ClassEntry → List (String × String) → Option ClassEntry → Prop
  | same (found : Option ClassEntry) : NameStep found [] found
  | declared (s : Sketch) : NameStep none s.notes (some s.entry)
  | declaredLibrary {e : ClassEntry} (he : e ∈ libraryTypes) : NameStep none [] (some e)
  | addedInterface (e : ClassEntry) (i : ClassName) : NameStep (some e) [] (some (e.addInterface i))
  | decorated (e : ClassEntry) (key value : String) :
      NameStep (some e) [(key, value)] (some (e.decorate key value))

variable {g g' : ClassGraph} {name : ClassName}

/-- The library types list no interface twice, and none of them has notes. -/
theorem plain_of_mem_libraryTypes :
    ∀ e ∈ libraryTypes, e.interfaces.Nodup ∧ e.decorations = {} := by
  decide

/-- A declaration is refused exactly if the name is taken, and then it changes nothing. -/
theorem change_declare_eq (g : ClassGraph) (s : Sketch) :
    g.change (.declare s) = if (g.resolve s.name).isSome then (some (.duplicateClass s.name), g)
      else (none, ⟨g.entries ++ [s.entry]⟩) := by
  have hname : s.entry.name = s.name := s.growsInto_entry.name
  show (g.addEach [s.entry]).swap = _
  by_cases htaken : (g.resolve s.name).isSome
  · have hadd := add_eq_error_iff.mpr ⟨hname.symm ▸ htaken, rfl⟩
    simp only [addEach, hadd, hname, Prod.swap_prod_mk, if_pos htaken]
  · have hadd := add_eq_ok_iff.mpr ⟨hname.symm ▸ Option.not_isSome_iff_eq_none.mp htaken, rfl⟩
    simp only [addEach, hadd, Prod.swap_prod_mk, if_neg htaken]

/-- A declaration adds the class where its name is free, and it touches no other name. -/
theorem nameStep_declare (g : ClassGraph) (name : ClassName) (s : Sketch) :
    NameStep (g.resolve name) (g.notesOn name (.declare s))
      ((g.change (.declare s)).2.resolve name) := by
  have hname : s.entry.name = s.name := s.growsInto_entry.name
  rw [change_declare_eq]
  by_cases hfree : g.resolve s.name = none
  · have hadd : g.add s.entry = .ok ⟨g.entries ++ [s.entry]⟩ :=
      add_eq_ok_iff.mpr ⟨hname ▸ hfree, rfl⟩
    simp only [hfree, Option.isSome_none, Bool.false_eq_true, if_false, resolve_add hadd, hname]
    by_cases heq : name = s.name
    · subst heq
      simp only [notesOn, hfree, Option.isNone_none, and_self, if_true]
      exact .declared s
    · simp only [notesOn, heq, Ne.symm heq, false_and, if_false]
      exact .same _
  · -- The declaration is refused, so the notes of the sketch are not made.
    have htaken : (g.resolve s.name).isSome := Option.isSome_iff_ne_none.mpr hfree
    have hnotes : g.notesOn name (.declare s) = [] := by
      refine if_neg ?_
      rintro ⟨rfl, hnone⟩
      exact hfree (Option.isNone_iff_eq_none.mp hnone)
    rw [if_pos htaken, hnotes]
    exact .same _

/-- Whether or not one of the library types is refused, only such types are added. -/
theorem nameStep_addLibraryTypes (g : ClassGraph) (name : ClassName) :
    NameStep (g.resolve name) [] (g.addLibraryTypes.1.resolve name) := by
  obtain ⟨new, hsub, hadds⟩ : ∃ new, (∀ e ∈ new, e ∈ libraryTypes) ∧
      AddsExactly g g.addLibraryTypes.1 new := by
    rcases addEach_cases g libraryTypes nodup_names_libraryTypes with
      ⟨_, _, hadds⟩ | ⟨before, e, after, hsplit, _, _, _, hadds⟩
    · exact ⟨libraryTypes, fun _ => id, hadds⟩
    · exact ⟨before, fun f hf => hsplit ▸ List.mem_append_left _ hf, hadds⟩
  rcases hadds.resolve_cases name with hsame | ⟨e, he, _, hnone, hfound⟩
  · rw [hsame]
    exact .same _
  · rw [hnone, hfound]
    exact .declaredLibrary (hsub e he)

theorem nameStep_addInterface (g : ClassGraph) (name other i : ClassName) :
    NameStep (g.resolve name) [] ((g.addInterface other i).resolve name) := by
  rw [addInterface, resolve_modify g other fun e => e.name_addInterface i]
  split
  · cases g.resolve name with
    | none => exact .same none
    | some e => exact .addedInterface e i
  · exact .same _

/-- A note is made on the class if it is there. -/
theorem nameStep_decorate (g : ClassGraph) (name other : ClassName) (key value : String) :
    NameStep (g.resolve name) (g.notesOn name (.decorate other key value))
      ((g.decorate other key value).resolve name) := by
  rw [decorate, resolve_modify g other fun e => e.name_decorate key value]
  by_cases heq : name = other
  · subst heq
    cases hfound : g.resolve name with
    | none => simpa [notesOn, hfound] using NameStep.same none
    | some e => simpa [notesOn, hfound] using NameStep.decorated e key value
  · simp only [notesOn, heq, Ne.symm heq, false_and, if_false]
    exact .same _

/-- Each change does one of these things to each name. -/
theorem nameStep_change (g : ClassGraph) (name : ClassName) (c : Change) :
    NameStep (g.resolve name) (g.notesOn name c) ((g.change c).2.resolve name) := by
  cases c with
  | declare s => exact nameStep_declare g name s
  | declareLibrary => exact nameStep_addLibraryTypes g name
  | addInterface other i => exact nameStep_addInterface g name other i
  | decorate other key value => exact nameStep_decorate g name other key value

/-- What each of these things keeps, a run of changes keeps. -/
theorem run_induction {P : Option ClassEntry → List (String × String) → Prop}
    (hstep : ∀ {found made found'}, NameStep found made found' → ∀ {notes}, P found notes →
      P found' (notes ++ made))
    (name : ClassName) (cs : List Change) (notes : List (String × String))
    (h : P (g.resolve name) notes) :
    P ((Runs.after change g cs).resolve name) (notes ++ g.notesAlong name cs) := by
  induction cs generalizing g notes with
  | nil => simpa [Runs.after, notesAlong] using h
  | cons c cs ih =>
      -- What the first change notes is behind the older notes when the others begin.
      have hnext := ih _ (hstep (nameStep_change g name c) h)
      rwa [List.append_assoc] at hnext

/-! ## What is kept -/

/-- A class that is there stays, and its entry grows. -/
theorem exists_growsInto_after {e : ClassEntry} (h : g.resolve name = some e) (cs : List Change) :
    ∃ e', (Runs.after change g cs).resolve name = some e' ∧ e.GrowsInto e' := by
  refine run_induction (P := fun found _ => ∃ e', found = some e' ∧ e.GrowsInto e') ?_ name cs
    [] ⟨e, h, .refl e⟩
  rintro found made found' hstep notes ⟨e', rfl, hgrows⟩
  cases hstep with
  | same => exact ⟨e', rfl, hgrows⟩
  | addedInterface _ i => exact ⟨_, rfl, hgrows.trans (e'.growsInto_addInterface i)⟩
  | decorated _ key value => exact ⟨_, rfl, hgrows.trans (e'.growsInto_decorate key value)⟩

/-- No entry lists an interface twice. -/
theorem nodup_interfaces_after (h : ∀ e, g.resolve name = some e → e.interfaces.Nodup)
    (cs : List Change) :
    ∀ e, (Runs.after change g cs).resolve name = some e → e.interfaces.Nodup := by
  refine run_induction (P := fun found _ => ∀ e, found = some e → e.interfaces.Nodup) ?_ name cs
    [] h
  rintro found made found' hstep notes hfound e he
  cases hstep with
  | same => exact hfound e he
  | declared s =>
      cases he
      exact s.nodup_interfaces_entry
  | declaredLibrary hmem =>
      cases he
      exact (plain_of_mem_libraryTypes _ hmem).1
  | addedInterface e i =>
      cases he
      exact ClassEntry.nodup_interfaces_addInterface (hfound e rfl) i
  | decorated e key value =>
      cases he
      exact hfound e rfl

/-- The entry has under each key the first note that was made; a class that is not there has no
notes. -/
def Records (notes : List (String × String)) : Option ClassEntry → Prop
  | none => notes = []
  | some e => ∀ key, e.decorations.get? key = notes.lookup key

theorem records_after (h : Records [] (g.resolve name)) (cs : List Change) :
    Records (g.notesAlong name cs) ((Runs.after change g cs).resolve name) := by
  refine run_induction (P := fun found notes => Records notes found) ?_ name cs [] h
  intro found made found' hstep notes hfound
  cases hstep with
  | same => simpa using hfound
  | declared s =>
      cases hfound
      exact s.get?_entry
  | declaredLibrary hmem =>
      cases hfound
      intro key
      rw [(plain_of_mem_libraryTypes _ hmem).2]
      rfl
  | addedInterface e i =>
      intro key
      rw [ClassEntry.decorations_addInterface, List.append_nil]
      exact hfound key
  | decorated e key value =>
      intro other
      rw [ClassEntry.get?_decorate, hfound other, List.lookup_append]

/-! ## Names -/

theorem nodup_names_addEach (hg : (g.entries.map ClassEntry.name).Nodup)
    (es : List ClassEntry) : ((g.addEach es).1.entries.map ClassEntry.name).Nodup := by
  induction es generalizing g with
  | nil => exact hg
  | cons e es ih =>
      rw [addEach]
      split
      · next m hadd => exact ih (nodup_names_add hg hadd)
      · exact hg

theorem nodup_names_modify (hg : (g.entries.map ClassEntry.name).Nodup) (name : ClassName)
    {f : ClassEntry → ClassEntry} (hf : ∀ e, (f e).name = e.name) :
    ((g.modify name f).entries.map ClassEntry.name).Nodup := by
  have hnames : (g.modify name f).entries.map ClassEntry.name = g.entries.map ClassEntry.name := by
    rw [modify, List.map_map]
    refine List.map_congr_left fun e _ => ?_
    show (if e.name = name then f e else e).name = e.name
    split
    · exact hf e
    · rfl
  rwa [hnames]

/-- No name is declared twice. -/
theorem nodup_names_after (hg : (g.entries.map ClassEntry.name).Nodup) (cs : List Change) :
    ((Runs.after change g cs).entries.map ClassEntry.name).Nodup := by
  refine List.foldlRecOn (motive := fun g : ClassGraph => (g.entries.map ClassEntry.name).Nodup) cs
    _ hg ?_
  intro m hm c _
  cases c with
  | declare s => exact nodup_names_addEach hm [s.entry]
  | declareLibrary => exact nodup_names_addEach hm libraryTypes
  | addInterface name i => exact nodup_names_modify hm name fun e => e.name_addInterface i
  | decorate name key value => exact nodup_names_modify hm name fun e => e.name_decorate key value

/-! ## Runs -/

/-- A graph at the start of a run: nothing is declared in it, or it was read from a listing. -/
inductive IsStart : ClassGraph → Prop
  | empty : IsStart .empty
  | listed {listing : Text} {g : ClassGraph} (h : ofListing listing = .ok g) : IsStart g

theorem IsStart.nodup_names (hg : IsStart g) : (g.entries.map ClassEntry.name).Nodup := by
  cases hg with
  | empty => exact List.nodup_nil
  | listed h => exact (Listing.describes_of_readLines h).nodup

/-- No entry lists an interface twice, and none has notes yet. -/
theorem IsStart.plain (hg : IsStart g) {e : ClassEntry} (h : g.resolve name = some e) :
    e.interfaces.Nodup ∧ e.decorations = {} := by
  cases hg with
  | empty => cases h
  | listed hread =>
      rcases ((Listing.describes_of_readLines hread).mem_iff e).mp (mem_of_resolve h) with
        hmem | ⟨_, _, d, _, _, rfl⟩
      · exact plain_of_mem_libraryTypes e hmem
      · exact ⟨FirstSeen.nodup_eraseDups _, rfl⟩

/-- In a run of changes, of which some may be refused, each class is found under its own name and
no other. A class that is there stays, and its superclass and its kind do not change. Its
interfaces do not repeat, and new ones come behind them. A key keeps the first note that was made
under it. A declaration that is refused changes nothing. -/
theorem growth_of_changes (hg : IsStart g) (changes more : List Change) :
    let now := Runs.after change g changes
    (∀ e ∈ now.entries, ∀ name, now.resolve name = some e ↔ name = e.name) ∧
      (∀ name e, now.resolve name = some e → e.interfaces.Nodup ∧
        (∀ key, e.decorations.get? key = (g.notesAlong name changes).lookup key) ∧
        ∃ e', (Runs.after change g (changes ++ more)).resolve name = some e' ∧ e.GrowsInto e') ∧
      ∀ s refusal, (now.change (.declare s)).1 = some refusal →
        refusal = .duplicateClass s.name ∧ (now.resolve s.name).isSome = true ∧
          (now.change (.declare s)).2 = now := by
  intro now
  refine ⟨?_, ?_, ?_⟩
  · intro e he name
    rw [resolve_eq_some_iff_mem (nodup_names_after hg.nodup_names changes)]
    exact ⟨fun h => h.2.symm, fun h => ⟨he, h.symm⟩⟩
  · intro name e hfound
    have hrecords : Records [] (g.resolve name) := by
      cases h : g.resolve name with
      | none => rfl
      | some e =>
          intro key
          rw [(hg.plain h).2]
          rfl
    have hnotes := records_after hrecords changes
    rw [show (Runs.after change g changes).resolve name = some e from hfound] at hnotes
    refine ⟨nodup_interfaces_after (fun e h => (hg.plain h).1) changes e hfound, hnotes, ?_⟩
    rw [Runs.after_append]
    exact exists_growsInto_after hfound more
  · intro s refusal hrefused
    rw [change_declare_eq] at hrefused ⊢
    split at hrefused
    · next htaken =>
      rw [if_pos htaken]
      cases hrefused
      exact ⟨rfl, htaken, rfl⟩
    · cases hrefused

end ClassGraph

namespace Zoo

/-- The dog is given a note twice, and an interface that it has. The library types and a second dog
are refused. A puppy that is declared with a note keeps it, too. -/
theorem growth_of_changes_dog :
    let puppy : ClassName := .literal "Puppy"
    let again : Sketch := { name := dog, superclass := none, isMixin := true }
    let changes : List ClassGraph.Change :=
      [.decorate dog "origin" "kennel", .declareLibrary, .decorate dog "origin" "shelter",
        .addInterface dog .serializable, .addInterface dog pet, .declare again,
        .decorate puppy "origin" "shelter",
        .declare
          { name := puppy, superclass := some dog, interfaces := [pet, pet]
            notes := [("origin", "litter"), ("origin", "shelter")] }]
    let more : List ClassGraph.Change :=
      [.decorate dog "origin" "street", .addInterface dog .comparable]
    let now := Runs.after ClassGraph.change graph changes
    ClassGraph.IsStart graph ∧
      (∃ e e', now.resolve dog = some e ∧ e.decorations.get? "origin" = some "kennel" ∧
        (Runs.after ClassGraph.change graph (changes ++ more)).resolve dog = some e' ∧
        e.GrowsInto e') ∧
      (∃ e, now.resolve puppy = some e ∧ e.interfaces.Nodup ∧
        e.decorations.get? "origin" = some "litter") ∧
      (now.change (.declare again)).2 = now := by
  intro puppy again changes more now
  have hstart : ClassGraph.IsStart graph := .listed ofListing_listing
  obtain ⟨_, hclasses, hrefused⟩ := ClassGraph.growth_of_changes hstart changes more
  obtain ⟨e, hdog⟩ := Option.isSome_iff_exists.mp (show (now.resolve dog).isSome = true by decide)
  obtain ⟨p, hpuppy⟩ :=
    Option.isSome_iff_exists.mp (show (now.resolve puppy).isSome = true by decide)
  obtain ⟨_, hnotes, e', hlater, hgrows⟩ := hclasses dog e hdog
  obtain ⟨hnodup, hlitter, _⟩ := hclasses puppy p hpuppy
  refine ⟨hstart, ⟨e, e', hdog, ?_, hlater, hgrows⟩, ⟨p, hpuppy, hnodup, ?_⟩, ?_⟩
  · rw [hnotes]
    decide
  · rw [hlitter]
    decide
  · exact (hrefused again (.duplicateClass dog) (by decide)).2.2

end Zoo

end ClassGraft
