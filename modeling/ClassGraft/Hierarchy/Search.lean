import ClassGraft.Hierarchy.Basic

/-!
# Searching the hierarchy

Two walks up the graph: along every link at once, to decide whether one class
can stand in for another, and along superclasses only, to list ancestors. A
graph may be malformed, with links to undeclared classes or cycles; both walks
remember what they have seen, so a declared class is left at most once. The
declared classes not yet seen are what the walks terminate by.

The memory of the second walk is there for termination alone. A walk up the
superclasses that remembers nothing finds the same ancestor, or it goes round a
cycle for ever; `ClassGraph.GoesRound` says for which classes it does. What is
said of the joins of such classes is true of walks with a memory only.
-/

namespace ClassGraft.ClassGraph

/-- Number of declared classes outside a list of names. -/
def unseen (g : ClassGraph) (seen : List ClassName) : Nat :=
  (g.entries.filter fun e => !seen.contains e.name).length

/-- One more name to leave out leaves fewer, if it was the name of one of them. -/
theorem length_filter_contains_lt {α : Type} (name : α → ClassName) {xs : List α} {x : α}
    {seen : List ClassName} (hx : x ∈ xs) (hnew : name x ∉ seen) :
    (xs.filter fun y => !(name x :: seen).contains (name y)).length
      < (xs.filter fun y => !seen.contains (name y)).length := by
  have hsplit : (xs.filter fun y => !(name x :: seen).contains (name y))
      = (xs.filter fun y => !seen.contains (name y)).filter fun y => name y != name x := by
    rw [List.filter_filter]
    congr 1
    funext y
    rw [List.contains_cons, Bool.not_or]
    rfl
  rw [hsplit, List.length_filter_lt_length_iff_exists]
  refine ⟨x, List.mem_filter.mpr ⟨hx, ?_⟩, ?_⟩
  · -- It was counted before,
    simpa using hnew
  · -- and is no longer.
    simp

/-- Seeing a declared class for the first time leaves fewer unseen. -/
theorem unseen_lt {g : ClassGraph} {seen : List ClassName} {name : ClassName} {e : ClassEntry}
    (hnew : ¬ name ∈ seen) (hres : g.resolve name = some e) :
    g.unseen (name :: seen) < g.unseen seen := by
  obtain rfl := name_of_resolve hres
  exact length_filter_contains_lt ClassEntry.name (mem_of_resolve hres) hnew

/-! ## Along every link -/

/-- Which links a search follows from a declared class. -/
def links (followInterfaces : Bool) (e : ClassEntry) : List ClassName :=
  e.superclass.toList ++ if followInterfaces then e.interfaces else []

/-- Is `goal` among the names to visit, or above one of them that has not been
seen? Undeclared classes end their branch. -/
def reaches (g : ClassGraph) (followInterfaces : Bool) (goal : ClassName)
    (seen : List ClassName) : List ClassName → Bool
  | [] => false
  | name :: rest =>
    if name = goal then true
    else if hseen : name ∈ seen then g.reaches followInterfaces goal seen rest
    else match hres : g.resolve name with
      -- An undeclared class need not be remembered: it leads nowhere.
      | none => g.reaches followInterfaces goal seen rest
      | some e =>
        have := unseen_lt hseen hres
        g.reaches followInterfaces goal (name :: seen) (links followInterfaces e ++ rest)
termination_by todo => (g.unseen seen, todo.length)

/-- Can a value of the first class be used as one of the second? Everything is an
object; otherwise the second class must be found above the first. The links of
interfaces are followed only when it is declared as an interface. -/
def isAssignable (g : ClassGraph) (sub super : ClassName) : Bool :=
  super = .object || g.reaches (g.isInterface super) super [] [sub]

/-! ## Along superclasses -/

/-- The chain of superclasses from a class on, up to one that has no declared
superclass or that is already on the chain. Where superclasses have no cycle the
latter does not happen. -/
def chainFrom (g : ClassGraph) (seen : List ClassName) : Option ClassName → List ClassName
  | none => []
  | some name =>
    if hseen : name ∈ seen then []
    else match hres : g.resolve name with
      | none => [name]
      | some e =>
        have := unseen_lt hseen hres
        name :: g.chainFrom (name :: seen) e.superclass
termination_by g.unseen seen

/-- The proper superclasses of a class, nearest first. -/
def superclasses (g : ClassGraph) (name : ClassName) : List ClassName :=
  g.chainFrom [] (g.superclass name)

/-- The closest class that both classes can be used as. If one of the two can be
used as the other, that is the answer. Otherwise interfaces have only the root in
common, since there may be no unique interface, and of classes the first
superclass of the first that the second can be used as is taken. Where the
superclasses run into a cycle without such a class, this is the root, and a walk
without memory does not end (`ClassGraph.GoesRound`). -/
def nearestCommonAncestor (g : ClassGraph) (a b : ClassName) :
    Except HierarchyError ClassName :=
  match g.resolve a, g.resolve b with
  | none, _ => .error (.missingClass a)
  | some _, none => .error (.missingClass b)
  | some entryA, some entryB =>
    if g.isAssignable b a then .ok a
    else if g.isAssignable a b then .ok b
    else if entryA.isInterface || entryB.isInterface then .ok .object
    else .ok (((g.superclasses a).find? fun c => g.isAssignable b c).getD .object)

end ClassGraft.ClassGraph
