import ClassGraft.Naming.Fragment
import ClassGraft.Notice

/-!
# The registry of ids

One registry is shared by the allocators of all targets. It numbers target
classes in the order in which they are first seen, and it counts how often each
pair of member name and descriptor was asked for. The two numbers make handler
names collision-free: the class number tells targets apart, the occurrence
number tells handlers of one name and descriptor apart.
-/

namespace ClassGraft

/-- Class numbers and occurrence counts. The number of a class is its place in
the one list of classes, so that the way from a class to its number and the way
back undo each other by construction. `ClassTable` looks numbers up in an index
of its own, where this takes an invariant, and answers alike. -/
structure Registry where
  /-- The classes that have a number, in the order of their numbers. -/
  classes : List ClassName := []
  /-- The latest number of each key that was asked for, a word of 32 bits. -/
  occurrences : List (Text × UInt32) := []
  deriving DecidableEq

namespace Registry

/-- The registry that has numbered nothing. -/
def empty : Registry := {}

/-! ## Classes -/

/-- The number of a class, the next free one if it has none yet. -/
def classId (r : Registry) (c : ClassName) : Nat × Registry :=
  match r.classes.idxOf? c with
  | some id => (id, r)
  | none => (r.classes.length, { r with classes := r.classes ++ [c] })

/-- What asking for the number of a class leaves in the log. -/
def classIdNotices (r : Registry) (c : ClassName) : List Notice :=
  if c ∈ r.classes then []
  else
    let id := r.classes.length
    [.classIdAssigned id (Naming.classLetters id) c]

/-- Number of classes that have a number. -/
def classCount (r : Registry) : Nat := r.classes.length

/-! ## Occurrences -/

/-- The latest number of a key. -/
def latest? (r : Registry) (key : Text) : Option UInt32 := r.occurrences.lookup key

/-- The number of a further occurrence of a key. The first one has number zero;
a later one has the next number, or shares the latest if it does not count.
Behind the largest word the next number is zero again. Checked arithmetic would
not count on from there, so the answers behind it are those of wrapping words. -/
def occurrence (r : Registry) (key : Text) (counts : Bool) : UInt32 × Registry :=
  let number :=
    match r.latest? key with
    | none => 0
    | some n => if counts then n + 1 else n
  (number,
    { r with occurrences := (key, number) :: r.occurrences.filter fun entry => entry.1 != key })

/-- The key of a member name with a descriptor. -/
def occurrenceKey (name descriptor : Text) : Text := name ++ descriptor

/-- The digits of a further occurrence of a member name with a descriptor. -/
def methodDigits (r : Registry) (name descriptor : Text) (counts : Bool) : Text × Registry :=
  let (number, r) := r.occurrence (occurrenceKey name descriptor) counts
  (Naming.occurrenceDigits number, r)

/-! ## Handlers -/

/-- The collision-free name of an injector handler in a target: the word of the
injector, the letters of the target, the digits of the occurrence, the source id,
and the member name without the source id its author put in front. A surrogate
shares the number of the handler that it stands in for. -/
def handlerName (r : Registry) (source : Option Text) (word : Text) (target : ClassName)
    (name descriptor : Text) (isSurrogate : Bool) : Text × Registry :=
  let space := Naming.sourceNamespace source
  let kept := Naming.stripSource name space
  let (id, r) := r.classId target
  let (number, r) := r.occurrence (occurrenceKey kept descriptor) !isSurrogate
  (word ++ '$' :: Naming.classLetters id ++ Naming.occurrenceDigits number
    ++ '$' :: Naming.sourceMark space ++ kept, r)

/-! ## What each request changes -/

/-- Asking for a class leaves the occurrences alone. -/
@[simp] theorem latest?_classId (r : Registry) (c : ClassName) (key : Text) :
    (r.classId c).2.latest? key = r.latest? key := by
  unfold classId
  split <;> rfl

/-- Asking for an occurrence leaves the classes alone. -/
@[simp] theorem classes_occurrence (r : Registry) (key : Text) (counts : Bool) :
    (r.occurrence key counts).2.classes = r.classes := rfl

/-- The number handed out is the latest of its key, and of no other. -/
theorem latest?_occurrence (r : Registry) (key : Text) (counts : Bool) (other : Text) :
    (r.occurrence key counts).2.latest? other
      = if other = key then some (r.occurrence key counts).1 else r.latest? other := by
  unfold occurrence latest?
  simp only [List.lookup_cons]
  split
  · next h => simp_all
  · next h =>
    have hne : other ≠ key := by simpa using h
    rw [if_neg hne]
    clear h
    -- Entries of other keys are kept in order by the removal of this one.
    induction r.occurrences with
    | nil => rfl
    | cons entry rest ih =>
      rw [List.filter_cons]
      split
      · rw [List.lookup_cons, List.lookup_cons, ih]
      · next hkey =>
        have hkey : entry.1 = key := by simpa using hkey
        have : (other == entry.1) = false := by simpa [hkey] using hne
        rw [ih, List.lookup_cons, this]

end Registry

end ClassGraft
