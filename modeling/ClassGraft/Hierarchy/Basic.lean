import ClassGraft.Decorations
import ClassGraft.Name.Class

/-!
# The class graph

What is known about classes without loading any: for each declared class its
superclass, its interfaces, and whether it is an interface or a mixin. A class
that is not declared is simply unknown; the names in the entries need not be
declared themselves.

Entries are looked up by name. `ClassGraph.add` refuses a name that is already
there, so a graph grown from the empty one never holds a name twice.
-/

namespace ClassGraft

/-- What is declared about one class. -/
structure ClassEntry where
  /-- Name of the class. -/
  name : ClassName
  /-- Its superclass; only the root of the hierarchy has none. -/
  superclass : Option ClassName
  /-- Interfaces it implements or, for an interface, extends, in order. -/
  interfaces : List ClassName := []
  isInterface : Bool := false
  /-- Is the class a mixin, as opposed to a class that exists at run time? -/
  isMixin : Bool := false
  /-- Free-form notes on the class. -/
  decorations : Decorations := {}
  deriving DecidableEq

/-- A question or a change that the graph refuses. -/
inductive HierarchyError where
  /-- The class is not declared. -/
  | missingClass (name : ClassName)
  /-- The class is declared already. -/
  | duplicateClass (name : ClassName)
  deriving DecidableEq

/-- The wording of a refusal. -/
def HierarchyError.message : HierarchyError → String
  | missingClass name => s!"Class {name} is not in the class graph"
  | duplicateClass name => s!"Class {name} is declared twice"

namespace ClassEntry

/-- The entry of the root of the hierarchy. -/
def root : ClassEntry := { name := .object, superclass := none }

/-- The entry of a class below the root. -/
def below (superclass name : ClassName) : ClassEntry :=
  { name := name, superclass := some superclass }

/-- The entry of an interface. -/
def interface (name : ClassName) : ClassEntry :=
  { name := name, superclass := some .object, isInterface := true }

/-- Add an interface at the end of the list, unless it is there. -/
def addInterface (e : ClassEntry) (i : ClassName) : ClassEntry :=
  if i ∈ e.interfaces then e else { e with interfaces := e.interfaces ++ [i] }

/-- Attach a note, unless its key has one. -/
def decorate (e : ClassEntry) (key value : String) : ClassEntry :=
  { e with decorations := e.decorations.put key value }

@[simp] theorem name_addInterface (e : ClassEntry) (i : ClassName) :
    (e.addInterface i).name = e.name := by
  unfold addInterface
  split <;> rfl

@[simp] theorem name_decorate (e : ClassEntry) (key value : String) :
    (e.decorate key value).name = e.name := rfl

/-- The list of interfaces only ever grows at its end, and by what it lacks. -/
theorem interfaces_addInterface (e : ClassEntry) (i : ClassName) :
    (e.addInterface i).interfaces
      = if i ∈ e.interfaces then e.interfaces else e.interfaces ++ [i] := by
  unfold addInterface
  split <;> rfl

end ClassEntry

/-- Everything declared about classes. -/
structure ClassGraph where
  /-- The entries, in the order in which they were declared. -/
  entries : List ClassEntry := []
  deriving DecidableEq

namespace ClassGraph

/-- The graph that knows no class. -/
def empty : ClassGraph := {}

/-- The entry of a class. -/
def resolve (g : ClassGraph) (name : ClassName) : Option ClassEntry :=
  g.entries.find? fun e => e.name == name

/-- Is the class declared as an interface? -/
def isInterface (g : ClassGraph) (name : ClassName) : Bool :=
  (g.resolve name).any ClassEntry.isInterface

/-- Is the class declared as a mixin? -/
def isMixin (g : ClassGraph) (name : ClassName) : Bool :=
  (g.resolve name).any ClassEntry.isMixin

/-- The declared superclass of a class. -/
def superclass (g : ClassGraph) (name : ClassName) : Option ClassName :=
  (g.resolve name).bind ClassEntry.superclass

/-- Number of declared classes. -/
def size (g : ClassGraph) : Nat := g.entries.length

/-- Declare one more class. -/
def add (g : ClassGraph) (e : ClassEntry) : Except HierarchyError ClassGraph :=
  if (g.resolve e.name).isSome then .error (.duplicateClass e.name)
  else .ok ⟨g.entries ++ [e]⟩

/-- Declare classes one after the other. The first one that is refused ends the
run; the classes before it stay declared. -/
def addEach (g : ClassGraph) : List ClassEntry → ClassGraph × Option HierarchyError
  | [] => (g, none)
  | e :: es =>
    match g.add e with
    | .ok g => g.addEach es
    | .error refusal => (g, some refusal)

/-- Change the entry of a class, by a function that keeps its name. -/
def modify (g : ClassGraph) (name : ClassName) (f : ClassEntry → ClassEntry) : ClassGraph :=
  ⟨g.entries.map fun e => if e.name = name then f e else e⟩

/-- Add an interface to a declared class. -/
def addInterface (g : ClassGraph) (name i : ClassName) : ClassGraph :=
  g.modify name fun e => e.addInterface i

/-- Attach a note to a declared class. -/
def decorate (g : ClassGraph) (name : ClassName) (key value : String) : ClassGraph :=
  g.modify name fun e => e.decorate key value

/-! ## What each operation does to the look-up -/

/-- A class resolves under its own name. -/
theorem name_of_resolve {g : ClassGraph} {name : ClassName} {e : ClassEntry}
    (h : g.resolve name = some e) : e.name = name := by
  simpa using List.find?_some h

theorem mem_of_resolve {g : ClassGraph} {name : ClassName} {e : ClassEntry}
    (h : g.resolve name = some e) : e ∈ g.entries :=
  List.mem_of_find?_eq_some h

@[simp] theorem resolve_empty (name : ClassName) : empty.resolve name = none := rfl

/-- A new class is found under its name, and every other name as before. -/
theorem resolve_add {g g' : ClassGraph} {e : ClassEntry} (h : g.add e = .ok g')
    (name : ClassName) :
    g'.resolve name = if name = e.name then some e else g.resolve name := by
  unfold add at h
  split at h
  · cases h
  · next hnew =>
    cases h
    have hnew : g.resolve e.name = none := by simpa using hnew
    -- The new entry is last, so it is found only where no older one is.
    unfold resolve at *
    rw [List.find?_append]
    split
    · next heq =>
      subst heq
      simp [hnew]
    · next hne =>
      have : (e.name == name) = false := by simpa using fun h => hne h.symm
      simp [this]

/-- Adding succeeds exactly for names that are not declared. -/
theorem add_eq_error_iff {g : ClassGraph} {e : ClassEntry} {refusal : HierarchyError} :
    g.add e = .error refusal ↔
      (g.resolve e.name).isSome = true ∧ refusal = .duplicateClass e.name := by
  unfold add
  split
  · next h =>
    constructor
    · intro heq
      cases heq
      exact ⟨h, rfl⟩
    · rintro ⟨_, rfl⟩
      rfl
  · next h =>
    constructor
    · intro heq
      cases heq
    · rintro ⟨h', _⟩
      exact absurd h' h

/-- A change is seen under the name of the class, and nowhere else. -/
theorem resolve_modify (g : ClassGraph) (name : ClassName) {f : ClassEntry → ClassEntry}
    (hf : ∀ e, (f e).name = e.name) (other : ClassName) :
    (g.modify name f).resolve other
      = if other = name then (g.resolve other).map f else g.resolve other := by
  -- The change keeps names, so the same position is found before and after it.
  have hkeep : ∀ e : ClassEntry, (if e.name = name then f e else e).name = e.name := by
    intro e
    split
    · exact hf e
    · rfl
  unfold resolve modify
  rw [List.find?_map]
  have hcomp : ((fun e : ClassEntry => e.name == other) ∘
      fun e => if e.name = name then f e else e) = fun e => e.name == other := by
    funext e
    simp only [Function.comp, hkeep]
  rw [hcomp]
  cases hfind : g.entries.find? fun e => e.name == other with
  | none => simp
  | some e =>
    have hname : e.name = other := by simpa using List.find?_some hfind
    simp only [Option.map_some, hname]
    split <;> rfl

/-! ## The library types -/

/-- The standard types that show up in every hierarchy. -/
def libraryTypes : List ClassEntry :=
  [.root, .interface .cloneable, .interface .serializable, .interface .charSequence,
    .interface .comparable,
    { ClassEntry.below .object .string with
      interfaces := [.serializable, .comparable, .charSequence] },
    { ClassEntry.below .object .number with interfaces := [.serializable] },
    { ClassEntry.below .number .integer with interfaces := [.comparable] }]

/-- Declare the library types one after the other; the first one that is there
already ends the run. -/
def addLibraryTypes (g : ClassGraph) : ClassGraph × Option HierarchyError :=
  g.addEach libraryTypes

/-- The graph of the library types alone. -/
def library : ClassGraph := ⟨libraryTypes⟩

end ClassGraph

end ClassGraft
