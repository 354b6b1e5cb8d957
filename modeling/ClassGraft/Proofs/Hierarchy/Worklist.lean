import Mathlib.Logic.Function.Iterate
import ClassGraft.Proofs.Hierarchy.Reachability

/-!
# The search as a worklist

`ClassGraph.isAssignable` remembers the names that it has left. The same question is answered
by a search that keeps a stack of names and marks a name when it is pushed, so that none is
pushed twice; `ClassGraph.round` is one turn of it. What is marked is reached from the start,
and what is marked and off the stack has only marked links: so the search finds the goal
exactly if there is a path to it, whatever the graph is like.

The search comes to an end because names are pushed from the links of declared classes only.
Each turn takes a name off the stack, and each name that comes onto it is one less that could
still come: the names that occur in the graph and are not marked, together with those on the
stack, grow fewer with every turn.
-/

namespace ClassGraft.ClassGraph

open Relation

variable {g : ClassGraph} {followInterfaces : Bool} {start goal : ClassName}

/-! ## The stack -/

/-- A stack of names, and what has been on it. -/
structure Worklist where
  /-- The names to look at, the last one pushed in front. -/
  todo : List ClassName
  /-- All names that were pushed. -/
  marked : List ClassName
  deriving DecidableEq

namespace Worklist

/-- Push a name and mark it, unless it was pushed before. -/
def push (w : Worklist) (name : ClassName) : Worklist :=
  if name ∈ w.marked then w else ⟨name :: w.todo, name :: w.marked⟩

/-- Push names one after the other. -/
def pushAll (w : Worklist) (names : List ClassName) : Worklist := names.foldl push w

theorem mem_marked_push {w : Worklist} {name x : ClassName} :
    x ∈ (w.push name).marked ↔ x ∈ w.marked ∨ x = name := by
  unfold push
  split
  · next hmem =>
    constructor
    · exact Or.inl
    · rintro (hx | rfl)
      · exact hx
      · exact hmem
  · simp [or_comm]

/-- The push puts a name on the stack only if it is new. -/
theorem mem_todo_push {w : Worklist} {name x : ClassName} :
    x ∈ (w.push name).todo ↔ x ∈ w.todo ∨ (x = name ∧ x ∉ w.marked) := by
  unfold push
  split
  · next hmem =>
    constructor
    · exact Or.inl
    · rintro (hx | ⟨rfl, hnot⟩)
      · exact hx
      · exact absurd hmem hnot
  · next hnew =>
    constructor
    · intro hx
      rcases List.mem_cons.mp hx with rfl | hx
      · exact Or.inr ⟨rfl, hnew⟩
      · exact Or.inl hx
    · rintro (hx | ⟨rfl, _⟩)
      · exact List.mem_cons_of_mem _ hx
      · exact List.mem_cons_self

/-- The names that were pushed are marked then. -/
theorem mem_marked_pushAll {w : Worklist} {names : List ClassName} {x : ClassName} :
    x ∈ (w.pushAll names).marked ↔ x ∈ w.marked ∨ x ∈ names := by
  induction names generalizing w with
  | nil => simp [pushAll]
  | cons name names ih =>
      show x ∈ ((w.push name).pushAll names).marked ↔ _
      rw [ih, mem_marked_push, List.mem_cons, or_assoc]

/-- On the stack are the old names and those that were new. -/
theorem mem_todo_pushAll {w : Worklist} {names : List ClassName} {x : ClassName} :
    x ∈ (w.pushAll names).todo ↔ x ∈ w.todo ∨ (x ∈ names ∧ x ∉ w.marked) := by
  induction names generalizing w with
  | nil => simp [pushAll]
  | cons name names ih =>
      show x ∈ ((w.push name).pushAll names).todo ↔ _
      rw [ih, mem_todo_push, mem_marked_push, List.mem_cons]
      tauto

end Worklist

/-! ## A turn of the search -/

/-- The links of a name, if it is declared. -/
def linksOf (g : ClassGraph) (followInterfaces : Bool) (name : ClassName) : List ClassName :=
  (g.resolve name).elim [] (links followInterfaces)

theorem mem_linksOf_iff {a b : ClassName} :
    b ∈ g.linksOf followInterfaces a ↔ g.IsLink followInterfaces a b := by
  cases hres : g.resolve a <;> simp [linksOf, IsLink, hres]

/-- A search that goes on, or that has its answer. -/
inductive Search where
  | going (w : Worklist)
  | ended (found : Bool)
  deriving DecidableEq

/-- The search for `goal` from `start`. Everything is an object, which needs no search. -/
def Search.enter (start goal : ClassName) : Search :=
  if goal = .object then .ended true else .going ⟨[start], [start]⟩

/-- One turn: look at the name on top of the stack, and push what it links to unless it is
the goal. -/
def round (g : ClassGraph) (followInterfaces : Bool) (goal : ClassName) : Search → Search
  | .ended found => .ended found
  | .going ⟨[], _⟩ => .ended false
  | .going ⟨name :: todo, marked⟩ =>
    if name = goal then .ended true
    else .going (Worklist.pushAll ⟨todo, marked⟩ (g.linksOf followInterfaces name))

/-- What is true of the worklist of a search from `start` that has not met the goal. -/
structure IsSearching (g : ClassGraph) (followInterfaces : Bool) (start goal : ClassName)
    (w : Worklist) : Prop where
  start_marked : start ∈ w.marked
  todo_marked : ∀ a ∈ w.todo, a ∈ w.marked
  /-- What is marked is reached. -/
  reached : ∀ a ∈ w.marked, ReflTransGen (g.IsLink followInterfaces) start a
  /-- What is marked and off the stack is not the goal. -/
  missed : ∀ a ∈ w.marked, a ∉ w.todo → a ≠ goal
  /-- Its links are marked. -/
  closed : ∀ a ∈ w.marked, a ∉ w.todo → ∀ b, g.IsLink followInterfaces a b → b ∈ w.marked

/-- The answer of a search that is over tells whether there is a path; one that goes on has
a sound worklist. -/
def IsRight (g : ClassGraph) (followInterfaces : Bool) (start goal : ClassName) : Search → Prop
  | .going w => g.IsSearching followInterfaces start goal w
  | .ended found => found = true ↔ ReflTransGen (g.IsLink followInterfaces) start goal

theorem isSearching_start :
    g.IsSearching followInterfaces start goal ⟨[start], [start]⟩ where
  start_marked := by simp
  todo_marked := by simp
  reached := by simp [ReflTransGen.refl]
  missed := by simp
  closed := by simp

/-- With nothing left on the stack, the goal is not reached. -/
theorem IsSearching.not_reached {marked : List ClassName}
    (h : g.IsSearching followInterfaces start goal ⟨[], marked⟩) :
    ¬ ReflTransGen (g.IsLink followInterfaces) start goal := by
  intro hpath
  have hmarked : ∀ a, ReflTransGen (g.IsLink followInterfaces) start a → a ∈ marked := by
    intro a ha
    induction ha with
    | refl => exact h.start_marked
    | tail _ hlink ih => exact h.closed _ ih List.not_mem_nil _ hlink
  exact h.missed goal (hmarked goal hpath) List.not_mem_nil rfl

/-- A name that is not the goal is left for its links. -/
theorem IsSearching.pushAll {name : ClassName} {todo marked : List ClassName}
    (h : g.IsSearching followInterfaces start goal ⟨name :: todo, marked⟩) (hne : name ≠ goal) :
    g.IsSearching followInterfaces start goal
      (Worklist.pushAll ⟨todo, marked⟩ (g.linksOf followInterfaces name)) := by
  have hname : name ∈ marked := h.todo_marked name List.mem_cons_self
  -- What is off the stack now was marked before, and was off the stack or on top of it.
  have hoff : ∀ a, a ∈ (Worklist.pushAll ⟨todo, marked⟩ (g.linksOf followInterfaces name)).marked →
      a ∉ (Worklist.pushAll ⟨todo, marked⟩ (g.linksOf followInterfaces name)).todo →
      a ∈ marked ∧ a ∉ todo := by
    intro a ha hnot
    rw [Worklist.mem_marked_pushAll] at ha
    rw [Worklist.mem_todo_pushAll] at hnot
    tauto
  constructor
  case start_marked => exact Worklist.mem_marked_pushAll.mpr (Or.inl h.start_marked)
  case todo_marked =>
    intro a ha
    rcases Worklist.mem_todo_pushAll.mp ha with ha | ⟨ha, _⟩
    · exact Worklist.mem_marked_pushAll.mpr (Or.inl (h.todo_marked a (List.mem_cons_of_mem _ ha)))
    · exact Worklist.mem_marked_pushAll.mpr (Or.inr ha)
  case reached =>
    intro a ha
    rcases Worklist.mem_marked_pushAll.mp ha with ha | ha
    · exact h.reached a ha
    · exact (h.reached name hname).tail (mem_linksOf_iff.mp ha)
  case missed =>
    intro a ha hnot
    obtain ⟨hmarked, htodo⟩ := hoff a ha hnot
    by_cases heq : a = name
    · exact heq ▸ hne
    · exact h.missed a hmarked (by simp [heq, htodo])
  case closed =>
    intro a ha hnot b hlink
    obtain ⟨hmarked, htodo⟩ := hoff a ha hnot
    by_cases heq : a = name
    · exact Worklist.mem_marked_pushAll.mpr (Or.inr (mem_linksOf_iff.mpr (heq ▸ hlink)))
    · exact Worklist.mem_marked_pushAll.mpr
        (Or.inl (h.closed a hmarked (by simp [heq, htodo]) b hlink))

/-- A turn keeps the search right. -/
theorem IsRight.round {s : Search} (h : g.IsRight followInterfaces start goal s) :
    g.IsRight followInterfaces start goal (g.round followInterfaces goal s) := by
  cases s with
  | ended found => exact h
  | going w =>
      obtain ⟨todo, marked⟩ := w
      cases todo with
      | nil => exact iff_of_false Bool.false_ne_true (IsSearching.not_reached h)
      | cons name todo =>
          have hname : name ∈ marked := h.todo_marked name List.mem_cons_self
          rw [ClassGraph.round]
          split
          · next heq => exact iff_of_true rfl (heq ▸ h.reached name hname)
          · next hne => exact IsSearching.pushAll h hne

/-- So does a run of turns. -/
theorem IsRight.iterate {s : Search} (h : g.IsRight followInterfaces start goal s) (n : Nat) :
    g.IsRight followInterfaces start goal ((g.round followInterfaces goal)^[n] s) :=
  Function.Iterate.rec (g.IsRight followInterfaces start goal) h (fun _ hs => hs.round) n

/-! ## The search ends -/

/-- The names that occur in the links of the graph. -/
def mentioned (g : ClassGraph) : List ClassName := g.entries.flatMap (links true)

/-- What a name links to occurs in the graph. -/
theorem mem_mentioned_of_mem_linksOf {name x : ClassName}
    (h : x ∈ g.linksOf followInterfaces name) : x ∈ g.mentioned := by
  obtain ⟨e, hres, hlink⟩ := mem_linksOf_iff.mp h
  refine List.mem_flatMap.mpr ⟨e, mem_of_resolve hres, ?_⟩
  cases followInterfaces with
  | true => exact hlink
  | false => exact List.mem_append_left _ (by simpa [links] using hlink)

/-- How many of them are not marked. -/
def unmarked (g : ClassGraph) (marked : List ClassName) : Nat :=
  (g.mentioned.filter fun name => !marked.contains name).length

/-- Marking a name that occurs in the graph leaves fewer. -/
theorem unmarked_lt {marked : List ClassName} {name : ClassName} (hname : name ∈ g.mentioned)
    (hnew : name ∉ marked) : g.unmarked (name :: marked) < g.unmarked marked :=
  length_filter_contains_lt id hname hnew

/-- How many names may still be looked at: those on the stack, and those that can come onto
it. -/
def remaining (g : ClassGraph) (w : Worklist) : Nat := g.unmarked w.marked + w.todo.length

/-- Pushing names that occur in the graph makes these no more. -/
theorem remaining_pushAll_le {names : List ClassName} (hnames : ∀ name ∈ names, name ∈ g.mentioned)
    (w : Worklist) : g.remaining (w.pushAll names) ≤ g.remaining w := by
  induction names generalizing w with
  | nil => exact Nat.le_refl _
  | cons name names ih =>
      have hrest : g.remaining ((w.push name).pushAll names) ≤ g.remaining (w.push name) :=
        ih (fun x hx => hnames x (List.mem_cons_of_mem _ hx)) _
      have hfirst : g.remaining (w.push name) ≤ g.remaining w := by
        unfold Worklist.push
        split
        · exact Nat.le_refl _
        · next hnew =>
          have hlt := unmarked_lt (hnames name List.mem_cons_self) hnew
          simp only [remaining, List.length_cons]
          omega
      exact Nat.le_trans hrest hfirst

/-- How many turns a search takes at most. -/
def Search.rank (g : ClassGraph) : Search → Nat
  | .ended _ => 0
  | .going w => g.remaining w + 1

/-- A turn of a search that goes on leaves fewer. -/
theorem rank_round_lt (w : Worklist) :
    (g.round followInterfaces goal (.going w)).rank g < (Search.going w).rank g := by
  obtain ⟨todo, marked⟩ := w
  cases todo with
  | nil => exact Nat.succ_pos _
  | cons name todo =>
      rw [round]
      split
      · exact Nat.succ_pos _
      · have hle : g.remaining (Worklist.pushAll ⟨todo, marked⟩ (g.linksOf followInterfaces name))
            ≤ g.remaining ⟨todo, marked⟩ :=
          remaining_pushAll_le (fun x hx => mem_mentioned_of_mem_linksOf hx) _
        have hpop : g.remaining ⟨name :: todo, marked⟩ = g.remaining ⟨todo, marked⟩ + 1 := rfl
        simp only [Search.rank, hpop]
        omega

/-- After that many turns, or more, the search is over. -/
theorem exists_iterate_round_eq_ended {s : Search} {n : Nat} (hn : s.rank g ≤ n) :
    ∃ found, (g.round followInterfaces goal)^[n] s = .ended found := by
  induction n generalizing s with
  | zero =>
      cases s with
      | ended found => exact ⟨found, rfl⟩
      | going w => exact absurd hn (Nat.not_succ_le_zero _)
  | succ n ih =>
      rw [Function.iterate_succ_apply]
      cases s with
      | ended found => exact ⟨found, Function.iterate_fixed rfl n⟩
      | going w => exact ih (Nat.le_of_lt_succ (Nat.lt_of_lt_of_le (rank_round_lt w) hn))

/-! ## Assignability -/

/-- The search is over after at most one turn for each name that occurs in the graph and two
more, and its answer is that of `isAssignable`. -/
theorem iterate_round_enter (g : ClassGraph) (sub super : ClassName) :
    (g.round (g.isInterface super) super)^[g.mentioned.length + 2] (.enter sub super)
      = .ended (g.isAssignable sub super) := by
  by_cases hobject : super = .object
  · subst hobject
    rw [Search.enter, if_pos rfl, isAssignable_object]
    exact Function.iterate_fixed rfl _
  · rw [Search.enter, if_neg hobject]
    have hrank : (Search.going ⟨[sub], [sub]⟩).rank g ≤ g.mentioned.length + 2 := by
      have hle : g.unmarked [sub] ≤ g.mentioned.length := List.length_filter_le _ _
      simp only [Search.rank, remaining, List.length_singleton]
      omega
    obtain ⟨found, hended⟩ := exists_iterate_round_eq_ended hrank
    have hsearch : g.IsRight (g.isInterface super) sub super (.going ⟨[sub], [sub]⟩) :=
      isSearching_start
    have hright : found = true ↔ ReflTransGen (g.IsLink (g.isInterface super)) sub super := by
      have hafter := hsearch.iterate (g.mentioned.length + 2)
      rwa [hended] at hafter
    rw [hended, Search.ended.injEq, Bool.eq_iff_iff, hright, isAssignable_iff, or_iff_right hobject]

/-- Assignability is decided exactly, on every graph. A search that marks names when it pushes
them comes to an end within a bound that the graph sets, with the answer of `isAssignable`, and
the answer is yes exactly for the root and for what is reached along links of declared classes:
superclasses, and interfaces where the second name is declared as one. -/
theorem isAssignable_exact (g : ClassGraph) (sub super : ClassName) :
    (g.round (g.isInterface super) super)^[g.mentioned.length + 2] (.enter sub super)
        = .ended (g.isAssignable sub super) ∧
    (g.isAssignable sub super = true ↔ super = .object ∨
      ReflTransGen (fun a b => ∃ e, g.resolve a = some e ∧ (e.superclass = some b ∨
        (∃ d, g.resolve super = some d ∧ d.isInterface = true) ∧ b ∈ e.interfaces)) sub super) := by
  refine ⟨iterate_round_enter g sub super, ?_⟩
  have hlink : (fun a b => ∃ e, g.resolve a = some e ∧ (e.superclass = some b ∨
      (∃ d, g.resolve super = some d ∧ d.isInterface = true) ∧ b ∈ e.interfaces))
      = g.IsLink (g.isInterface super) := by
    have hinterface : g.isInterface super = true ↔
        ∃ d, g.resolve super = some d ∧ d.isInterface = true := by
      rw [isInterface, Option.any_eq_true]
    funext a b
    simp [IsLink, links, ← hinterface]
  rw [hlink]
  exact isAssignable_iff

end ClassGraft.ClassGraph
