import Mathlib.Data.List.Infix
import ClassGraft.Naming.Registry
import ClassGraft.Proofs.Runs

/-!
# Runs of requests

A registry is shared, so what one allocator is told depends on what all others
asked for before. A run is a list of requests of all kinds, in the order in which
the registry served them, and it may start from any registry.

Two things are kept by every request and hence by every run: a class that has a
number keeps it, and the latest number of a key grows by one for each request
that counts for the key.
-/

namespace ClassGraft

/-- What a registry can be asked for. -/
inductive Request where
  /-- The letters of a class. -/
  | letters (c : ClassName)
  /-- The digits of a further occurrence of a member. -/
  | digits (name descriptor : Text) (counts : Bool)
  /-- The name of a handler. -/
  | handler (source : Option Text) (word : Text) (target : ClassName) (name descriptor : Text)
      (isSurrogate : Bool)

/-- Does the request make the latest number of the key grow? The first request for
a key never does, whatever this says. -/
def Request.countsFor (key : Text) : Request → Bool
  | letters _ => false
  | digits name descriptor counts => Registry.occurrenceKey name descriptor == key && counts
  | handler source _ _ name descriptor isSurrogate =>
    Registry.occurrenceKey (Naming.stripSource name (Naming.sourceNamespace source)) descriptor
      == key && !isSurrogate

namespace Registry

/-- What a request is answered, and the registry that is left. -/
def serve (r : Registry) : Request → Text × Registry
  | .letters c => (Naming.classLetters (r.classId c).1, (r.classId c).2)
  | .digits name descriptor counts => r.methodDigits name descriptor counts
  | .handler source word target name descriptor isSurrogate =>
    r.handlerName source word target name descriptor isSurrogate

/-- The registry that a run of requests leaves. -/
def run (r : Registry) (requests : List Request) : Registry :=
  requests.foldl (fun r request => (r.serve request).2) r

/-- What the requests of a run are answered, in order. -/
def answers (r : Registry) : List Request → List Text
  | [] => []
  | request :: rest => (r.serve request).1 :: (r.serve request).2.answers rest

/-- An answer depends on the requests before it only through the registry that
they leave. -/
theorem getElem?_answers (r : Registry) {requests : List Request} {i : Nat} {request : Request}
    (h : requests[i]? = some request) :
    (r.answers requests)[i]? = some ((r.run (requests.take i)).serve request).1 := by
  have houtputs : r.answers requests = Runs.outputs serve r requests := by
    clear h
    induction requests generalizing r with
    | nil => rfl
    | cons first rest ih => exact congrArg _ (ih (r.serve first).2)
  rw [houtputs]
  exact Runs.getElem?_outputs serve r h

/-! ## Class numbers -/

/-- The number of a class is its position, or the first position after all
classes. -/
theorem classId_eq_idxOf (r : Registry) (c : ClassName) :
    (r.classId c).1 = r.classes.idxOf c := by
  rw [List.idxOf_eq_getD_idxOf?, classId]
  split
  · next id hid => rw [hid, Option.getD_some]
  · next hnone => rw [hnone, Option.getD_none]

/-- A request for a class leaves it with a number, and all others with theirs. -/
theorem classes_classId (r : Registry) (c : ClassName) :
    c ∈ (r.classId c).2.classes ∧ r.classes <+: (r.classId c).2.classes := by
  unfold classId
  split
  · next id hid =>
    refine ⟨List.isSome_idxOf?.mp ?_, List.prefix_rfl⟩
    rw [hid]
    rfl
  · exact ⟨by simp, List.prefix_append _ _⟩

/-- Requests only ever add classes at the end. -/
theorem isPrefix_classes_serve (r : Registry) (request : Request) :
    r.classes <+: (r.serve request).2.classes := by
  cases request with
  | letters c => exact (classes_classId r c).2
  | digits name descriptor counts => exact List.prefix_rfl
  | handler source word target name descriptor isSurrogate => exact (classes_classId r target).2

theorem isPrefix_classes_run (r : Registry) (requests : List Request) :
    r.classes <+: (r.run requests).classes := by
  induction requests generalizing r with
  | nil => exact List.prefix_rfl
  | cons first rest ih => exact (isPrefix_classes_serve r first).trans (ih (r.serve first).2)

/-- A class that has a number keeps it while classes are added at the end. -/
theorem classId_of_isPrefix {r r' : Registry} {c : ClassName} (hc : c ∈ r.classes)
    (h : r.classes <+: r'.classes) : (r'.classId c).1 = (r.classId c).1 := by
  obtain ⟨later, hlater⟩ := h
  rw [classId_eq_idxOf, classId_eq_idxOf, ← hlater, List.idxOf_append_of_mem hc]

/-- The number that a class is given is the one it has from then on. -/
theorem classId_classId (r : Registry) (c : ClassName) :
    ((r.classId c).2.classId c).1 = (r.classId c).1 := by
  by_cases hc : c ∈ r.classes
  · exact classId_of_isPrefix hc (classes_classId r c).2
  · have hnone : r.classes.idxOf? c = none := List.idxOf?_eq_none_iff.mpr hc
    rw [classId_eq_idxOf, classId_eq_idxOf]
    simp [classId, hnone, List.idxOf_append_of_notMem hc, List.idxOf_eq_length hc]

/-! ## Occurrence numbers -/

/-- The number that a request which counts for the key is given next. -/
def nextNumber (r : Registry) (key : Text) : UInt32 := (r.occurrence key true).1

theorem nextNumber_of_latest? {r : Registry} {key : Text} {n : UInt32}
    (h : r.latest? key = some n) : r.nextNumber key = n + 1 := by
  simp [nextNumber, occurrence, h]

/-- Each request that counts for a key adds one to its latest number. -/
theorem latest?_serve {r : Registry} {key : Text} {n : UInt32} (h : r.latest? key = some n)
    (request : Request) :
    (r.serve request).2.latest? key = some (if request.countsFor key then n + 1 else n) := by
  -- The two kinds of requests for occurrences differ in their keys only.
  have hoccurrence : ∀ (s : Registry) (other : Text) (counts : Bool), s.latest? key = some n →
      (s.occurrence other counts).2.latest? key
        = some (if other == key && counts then n + 1 else n) := by
    intro s other counts hs
    rw [latest?_occurrence]
    by_cases hother : key = other
    · subst hother
      simp [occurrence, hs]
    · have hne : (other == key) = false := by simpa using fun heq => hother heq.symm
      simp [hother, hne, hs]
  cases request with
  | letters c => simpa [serve, Request.countsFor] using h
  | digits name descriptor counts => exact hoccurrence r _ counts h
  | handler source word target name descriptor isSurrogate =>
      have hclass : (r.classId target).2.latest? key = some n := by
        rw [latest?_classId]
        exact h
      exact hoccurrence (r.classId target).2 _ _ hclass

/-- Over a run, the latest number of a key grows by the number of requests that
count for it. -/
theorem latest?_run {r : Registry} {key : Text} {n : UInt32} (h : r.latest? key = some n)
    (requests : List Request) :
    (r.run requests).latest? key
      = some (n + UInt32.ofNat (requests.countP (·.countsFor key))) := by
  induction requests generalizing r n with
  | nil => simpa [run] using h
  | cons first rest ih =>
      have hstep := ih (latest?_serve h first)
      rw [run, List.foldl_cons]
      refine hstep.trans (congrArg some ?_)
      rw [List.countP_cons]
      by_cases hfirst : first.countsFor key = true
      · simp only [hfirst, if_true, UInt32.ofNat_add]
        show n + 1 + _ = n + (_ + 1)
        rw [UInt32.add_assoc, UInt32.add_comm 1]
      · simp [hfirst]

/-- Two requests that count for a key have the same number only where the numbers between them
went round. -/
theorem nextNumber_run_eq_iff {r r' : Registry} {key : Text}
    (h : r'.latest? key = some (r.nextNumber key)) (between : List Request) :
    r.nextNumber key = (r'.run between).nextNumber key ↔
      UInt32.size ∣ between.countP (·.countsFor key) + 1 := by
  have hround : ∀ n : Nat, UInt32.ofNat n = 0 ↔ UInt32.size ∣ n := by
    intro n
    rw [← UInt32.toNat_inj, UInt32.toNat_ofNat', UInt32.toNat_zero, Nat.dvd_iff_mod_eq_zero]
  rw [nextNumber_of_latest? (latest?_run h between), UInt32.add_assoc, UInt32.left_eq_add,
    ← hround, UInt32.ofNat_add]
  rfl

end Registry

end ClassGraft
