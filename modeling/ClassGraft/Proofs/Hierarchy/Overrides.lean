import Mathlib.Data.List.Forall2
import Mathlib.Data.List.Nodup
import Mathlib.Logic.Function.Iterate
import ClassGraft.Inheritance
import ClassGraft.Proofs.Hierarchy.Ancestors

/-!
# Overrides among mixins that extend mixins

A registration climbs from the mixin along superclasses, for as long as they are mixins
that it has not met, and records the mixin under each of them. `ClassGraph.climb` is one
step of this. The climb is over after at most one step more than there are declared classes,
on every graph, cycles included; it has then met exactly the classes that the mixin stands
below, each one once, and these are the `ClassGraph.mixinAncestors`.

The overrides of a method are looked up among everything recorded under its owner. The main
statement says what is found after any run of registrations, each with a graph of its own:
one entry for each registration that overrides the method, in the order of registration.
-/

namespace ClassGraft

open Relation

namespace ClassGraph

variable {g : ClassGraph}

/-! ## Below a mixin -/

/-- `b` is the declared superclass of `a`, and a mixin. -/
def ExtendsMixin (g : ClassGraph) (a b : ClassName) : Prop :=
  g.Extends a b ∧ g.isMixin b = true

/-- `c` is reached from `a` along superclasses, one at least, all of which are mixins up to
`c` and with `c` itself. -/
def StandsBelow (g : ClassGraph) (a c : ClassName) : Prop := TransGen g.ExtendsMixin a c

/-! ## The climb of a registration -/

/-- A climb along superclasses. -/
structure Climb where
  /-- The mixins that it has met, nearest first. -/
  met : List ClassName
  /-- The class that it comes to next; none when it is over. -/
  next : Option ClassName
  deriving DecidableEq

/-- A climb that sets out from a class. -/
def Climb.start (g : ClassGraph) (name : ClassName) : Climb := ⟨[], g.superclass name⟩

/-- One step of a climb. It is over at a class that is no mixin, and at one that it has met. -/
def climb (g : ClassGraph) (c : Climb) : Climb :=
  match c.next with
  | none => c
  | some name =>
    if g.isMixin name ∧ name ∉ c.met then ⟨c.met ++ [name], g.superclass name⟩
    else ⟨c.met, none⟩

/-- A climb meets a mixin that is new to it and goes on from there. -/
theorem climb_of_isMixin {met : List ClassName} {name : ClassName} (hmixin : g.isMixin name = true)
    (hnew : name ∉ met) : g.climb ⟨met, some name⟩ = ⟨met ++ [name], g.superclass name⟩ :=
  if_pos ⟨hmixin, hnew⟩

/-- At any other class it is over. -/
theorem climb_of_not {met : List ClassName} {name : ClassName}
    (h : ¬ (g.isMixin name = true ∧ name ∉ met)) : g.climb ⟨met, some name⟩ = ⟨met, none⟩ :=
  if_neg h

/-- A climb that is over stays as it is. -/
theorem iterate_climb_over (met : List ClassName) (n : Nat) :
    g.climb^[n] ⟨met, none⟩ = ⟨met, none⟩ :=
  Function.iterate_fixed rfl n

/-- One step is enough at a class where it is over. -/
theorem iterate_climb_of_not {met : List ClassName} {name : ClassName} {n : Nat} (hn : 0 < n)
    (h : ¬ (g.isMixin name = true ∧ name ∉ met)) : g.climb^[n] ⟨met, some name⟩ = ⟨met, none⟩ := by
  obtain ⟨n, rfl⟩ := Nat.exists_eq_add_one.mpr hn
  rw [Function.iterate_succ_apply, climb_of_not h, iterate_climb_over]

/-- What is true of a climb from a class at any time. -/
structure IsClimbing (g : ClassGraph) (start : ClassName) (c : Climb) : Prop where
  /-- No mixin is met twice. -/
  nodup : c.met.Nodup
  /-- What was met stands above the class. -/
  above : ∀ a ∈ c.met, g.StandsBelow start a
  /-- What comes next is the superclass of the class, or of one that was met. -/
  next : ∀ b, c.next = some b → ∃ a, ReflTransGen g.ExtendsMixin start a ∧ g.Extends a b
  /-- A mixin that the class or one that was met extends was met as well, or comes next. -/
  closed : ∀ a, a = start ∨ a ∈ c.met → ∀ b, g.ExtendsMixin a b → b ∈ c.met ∨ c.next = some b

theorem isClimbing_start (start : ClassName) : g.IsClimbing start (.start g start) where
  nodup := List.nodup_nil
  above := by simp [Climb.start]
  next := fun b hb => ⟨start, .refl, hb⟩
  closed := by
    rintro a (rfl | ha) b hab
    · exact Or.inr hab.1
    · simp [Climb.start] at ha

/-- A step keeps it true. -/
theorem IsClimbing.climb {start : ClassName} {c : Climb} (h : g.IsClimbing start c) :
    g.IsClimbing start (g.climb c) := by
  obtain ⟨met, next⟩ := c
  cases next with
  | none => exact h
  | some name =>
      by_cases hnew : g.isMixin name = true ∧ name ∉ met
      · obtain ⟨a, hstart, hext⟩ := h.next name rfl
        have habove : g.StandsBelow start name := TransGen.tail' hstart ⟨hext, hnew.1⟩
        rw [climb_of_isMixin hnew.1 hnew.2]
        constructor
        case nodup => exact List.concat_eq_append ▸ h.nodup.concat hnew.2
        case above =>
          intro b hb
          rcases List.mem_append.mp hb with hb | hb
          · exact h.above b hb
          · obtain rfl : b = name := by simpa using hb
            exact habove
        case next => exact fun b hb => ⟨name, habove.to_reflTransGen, hb⟩
        case closed =>
          intro b hb d hbd
          by_cases hname : b = name
          · subst hname
            exact Or.inr hbd.1
          · have hold : b = start ∨ b ∈ met := by simpa [hname] using hb
            rcases h.closed b hold d hbd with hmet | hnext
            · exact Or.inl (List.mem_append_left _ hmet)
            · exact Or.inl (by simp [Option.some.inj hnext])
      · rw [climb_of_not hnew]
        refine ⟨h.nodup, h.above, by simp, ?_⟩
        intro b hb d hbd
        rcases h.closed b hb d hbd with hmet | hnext
        · exact Or.inl hmet
        · -- The class was a mixin, so the climb is over because it has met it.
          obtain rfl : name = d := Option.some.inj hnext
          exact Or.inl (not_not.mp fun hnot => hnew ⟨hbd.2, hnot⟩)

/-- So does a run of steps. -/
theorem isClimbing_iterate (start : ClassName) (n : Nat) :
    g.IsClimbing start (g.climb^[n] (.start g start)) :=
  Function.Iterate.rec (g.IsClimbing start) (isClimbing_start start) (fun _ hc => hc.climb) n

/-- A climb that is over has met exactly what the class stands below. -/
theorem IsClimbing.mem_iff {start c : ClassName} {met : List ClassName}
    (h : g.IsClimbing start ⟨met, none⟩) : c ∈ met ↔ g.StandsBelow start c := by
  constructor
  · exact h.above c
  · intro hbelow
    induction hbelow with
    | single hext => simpa using h.closed start (Or.inl rfl) _ hext
    | tail _ hext ih => simpa using h.closed _ (Or.inr ih) _ hext

/-! ## The mixins above a class -/

/-- A climb goes along the chain of superclasses up to the first that is no mixin, and takes
no more steps than there are classes left to see, and one. -/
theorem iterate_climb {seen met : List ClassName} {next : Option ClassName} {n : Nat}
    (hmet : ∀ name, name ∈ met ↔ name ∈ seen) (hn : g.unseen seen < n) :
    g.climb^[n] ⟨met, next⟩ = ⟨met ++ (g.chainFrom seen next).takeWhile g.isMixin, none⟩ := by
  have hpos : 0 < n := Nat.zero_lt_of_lt hn
  induction seen, next using chainFrom.induct g generalizing met n with
  | case1 seen => simpa [chainFrom] using iterate_climb_over met n
  | case2 seen name hseen =>
      rw [chainFrom_of_mem_seen hseen, iterate_climb_of_not hpos (by simp [hmet, hseen])]
      simp
  | case3 seen name hseen hres =>
      have hmixin : g.isMixin name = false := by simp [isMixin, hres]
      rw [chainFrom_of_undeclared hseen hres, iterate_climb_of_not hpos (by simp [hmixin])]
      simp [hmixin]
  | case4 seen name hseen e hres hlt ih =>
      rw [chainFrom_of_declared hseen hres]
      by_cases hmixin : g.isMixin name = true
      · have hsuper : g.superclass name = e.superclass := by simp [superclass, hres]
        have hmet' : ∀ c, c ∈ met ++ [name] ↔ c ∈ name :: seen := by simp [hmet, or_comm]
        obtain ⟨n, rfl⟩ := Nat.exists_eq_add_one.mpr hpos
        rw [Function.iterate_succ_apply, climb_of_isMixin hmixin (by simpa [hmet] using hseen),
          hsuper, ih hmet' (by omega) (by omega)]
        simp [hmixin]
      · rw [iterate_climb_of_not hpos (by simp [hmixin])]
        simp [hmixin]

/-- A registration climbs to the end, and meets the mixins above the class. -/
theorem iterate_climb_start (name : ClassName) :
    g.climb^[g.size + 1] (.start g name) = ⟨g.mixinAncestors name, none⟩ := by
  have hunseen : g.unseen [] < g.size + 1 := by simp [unseen, size]
  exact iterate_climb (by simp) hunseen

theorem isClimbing_mixinAncestors (name : ClassName) :
    g.IsClimbing name ⟨g.mixinAncestors name, none⟩ :=
  iterate_climb_start (g := g) name ▸ isClimbing_iterate name _

/-- The mixins above a class are those that it stands below. -/
theorem mem_mixinAncestors_iff {a c : ClassName} :
    c ∈ g.mixinAncestors a ↔ g.StandsBelow a c :=
  (isClimbing_mixinAncestors a).mem_iff

theorem nodup_mixinAncestors (name : ClassName) : (g.mixinAncestors name).Nodup :=
  (isClimbing_mixinAncestors name).nodup

/-- Whether a class stands below another one is decided by climbing. -/
instance (a c : ClassName) : Decidable (g.StandsBelow a c) :=
  decidable_of_iff (c ∈ (g.climb^[g.size + 1] (.start g a)).met)
    (by rw [iterate_climb_start, mem_mixinAncestors_iff])

end ClassGraph

/-! ## What a mixin declares -/

namespace Mixin

/-- The method is the first one of the mixin that has the name and the type. -/
def Declares (mixin : Mixin) (name : MemberName) (type : MethodType ClassName)
    (method : MixinMethod) : Prop :=
  (method.name = name ∧ method.type = type) ∧
    ∃ before after, mixin.methods = before ++ method :: after ∧
      ∀ m ∈ before, ¬ (m.name = name ∧ m.type = type)

theorem method?_eq_some_iff {mixin : Mixin} {name : MemberName} {type : MethodType ClassName}
    {method : MixinMethod} :
    mixin.method? name type = some method ↔ mixin.Declares name type method := by
  simp only [method?, Declares, List.find?_eq_some_iff_append, Bool.and_eq_true, beq_iff_eq,
    Bool.not_eq_true', ← Bool.not_eq_true]

end Mixin

/-- A method can override one of the owner unless it is static, private, or visible in another
package only. -/
theorem MixinMethod.canOverride_iff {m : MixinMethod} {owner declaredIn : ClassName} :
    m.canOverride owner declaredIn = true ↔ m.flags.isStatic = false ∧ m.flags.isPrivate = false ∧
      (m.flags.visibility = .packageAccess → owner.packagePart = declaredIn.packagePart) := by
  simp [canOverride, and_assoc, imp_iff_not_or]

/-- A mixin that is recorded, and the graph that it is recorded by. -/
structure Registration where
  mixin : Mixin
  graph : ClassGraph
  deriving DecidableEq

namespace Registration

variable {r : Registration} {owner : ClassName} {name : MemberName} {type : MethodType ClassName}

/-- The mixin is recorded below the owner. -/
def IsBelow (r : Registration) (owner : ClassName) : Prop :=
  r.graph.StandsBelow r.mixin.name owner

instance (r : Registration) (owner : ClassName) : Decidable (r.IsBelow owner) :=
  inferInstanceAs (Decidable (r.graph.StandsBelow r.mixin.name owner))

/-- The entry is the override that the recorded mixin has of a method of the owner. -/
structure Overrides (r : Registration) (owner : ClassName) (name : MemberName)
    (type : MethodType ClassName) (entry : Override) : Prop where
  below : r.IsBelow owner
  /-- The entry carries the name of the mixin, and its first method of that name and type. -/
  mixin : entry.mixin = r.mixin.name
  method : r.mixin.Declares name type entry.method
  notStatic : entry.method.flags.isStatic = false
  notPrivate : entry.method.flags.isPrivate = false
  /-- A method that is visible in its package overrides within that package only. -/
  package : entry.method.flags.visibility = .packageAccess →
    owner.packagePart = r.mixin.name.packagePart

/-- The override that a registration adds, if it does. -/
def override? (r : Registration) (owner : ClassName) (name : MemberName)
    (type : MethodType ClassName) : Option Override :=
  if r.IsBelow owner then Tracker.overrideIn? owner name type r.mixin else none

theorem override?_eq_some_iff {entry : Override} :
    r.override? owner name type = some entry ↔ r.Overrides owner name type entry := by
  constructor
  · intro h
    obtain ⟨hbelow, hin⟩ : r.IsBelow owner ∧
        Tracker.overrideIn? owner name type r.mixin = some entry := by simpa [override?] using h
    obtain ⟨method, hmethod, rfl⟩ := Option.map_eq_some_iff.mp hin
    obtain ⟨hfirst, hcan⟩ := Option.filter_eq_some_iff.mp hmethod
    obtain ⟨hstatic, hprivate, hpackage⟩ := MixinMethod.canOverride_iff.mp hcan
    exact ⟨hbelow, rfl, Mixin.method?_eq_some_iff.mp hfirst, hstatic, hprivate, hpackage⟩
  · intro h
    obtain ⟨mixin, method⟩ := entry
    obtain rfl : mixin = r.mixin.name := h.mixin
    have hcan : method.canOverride owner r.mixin.name = true :=
      MixinMethod.canOverride_iff.mpr ⟨h.notStatic, h.notPrivate, h.package⟩
    have hfirst : r.mixin.method? name type = some method := Mixin.method?_eq_some_iff.mpr h.method
    simp [override?, h.below, Tracker.overrideIn?, hfirst, hcan]

instance (r : Registration) (owner : ClassName) (name : MemberName)
    (type : MethodType ClassName) : Decidable (∃ entry, r.Overrides owner name type entry) :=
  decidable_of_iff ((r.override? owner name type).isSome = true)
    (by simp only [Option.isSome_iff_exists, override?_eq_some_iff])

/-- The overrides that registrations add belong, one by one and in order, to those of the
registrations that have one. -/
theorem forall₂_override? (rs : List Registration) :
    List.Forall₂ (fun r entry => r.Overrides owner name type entry)
      (rs.filter fun r => ∃ entry, r.Overrides owner name type entry)
      (rs.filterMap fun r => r.override? owner name type) := by
  induction rs with
  | nil => exact .nil
  | cons r rs ih =>
      cases h : r.override? owner name type with
      | none =>
          have hnot : ¬ ∃ entry, r.Overrides owner name type entry := by
            simp [← override?_eq_some_iff, h]
          rw [List.filter_cons_of_neg (by simpa using hnot)]
          simpa only [List.filterMap_cons, h] using ih
      | some entry =>
          have hentry := override?_eq_some_iff.mp h
          have hsome : ∃ entry, r.Overrides owner name type entry := ⟨entry, hentry⟩
          rw [List.filter_cons_of_pos (by simpa using hsome)]
          simp only [List.filterMap_cons, h]
          exact .cons hentry ih

end Registration

/-! ## Runs of registrations -/

namespace Tracker

variable {owner : ClassName} {name : MemberName} {type : MethodType ClassName}

/-- Record mixins one after the other. -/
def registerAll (t : Tracker) (rs : List Registration) : Tracker :=
  rs.foldl (fun t r => t.register r.mixin r.graph) t

/-- A registration adds the override that it has, and keeps what was found before. -/
theorem overrides_register (t : Tracker) (r : Registration) :
    (t.register r.mixin r.graph).overrides owner name type
      = t.overrides owner name type ++ (r.override? owner name type).toList := by
  -- The owner is among the ancestors once or not at all.
  have hcount : (r.graph.mixinAncestors r.mixin.name).filter (· == owner)
      = if r.IsBelow owner then [owner] else [] := by
    rw [List.filter_beq, (ClassGraph.nodup_mixinAncestors _).count]
    by_cases hbelow : r.IsBelow owner
    · rw [if_pos (ClassGraph.mem_mixinAncestors_iff.mpr hbelow), if_pos hbelow]
      rfl
    · rw [if_neg (mt ClassGraph.mem_mixinAncestors_iff.mp hbelow), if_neg hbelow]
      rfl
  rw [overrides, descendants_register, hcount, List.filterMap_append, ← overrides]
  congr 1
  unfold Registration.override?
  split
  · cases h : overrideIn? owner name type r.mixin <;> simp [h]
  · rfl

/-- So does a run of registrations, in order. -/
theorem overrides_registerAll (t : Tracker) (rs : List Registration) :
    (t.registerAll rs).overrides owner name type
      = t.overrides owner name type ++ rs.filterMap fun r => r.override? owner name type := by
  induction rs generalizing t with
  | nil => simp [registerAll]
  | cons r rs ih =>
      calc ((t.register r.mixin r.graph).registerAll rs).overrides owner name type
        _ = (t.register r.mixin r.graph).overrides owner name type
              ++ rs.filterMap fun r => r.override? owner name type := ih _
        _ = t.overrides owner name type ++ ((r.override? owner name type).toList
              ++ rs.filterMap fun r => r.override? owner name type) := by
            rw [overrides_register, List.append_assoc]
        _ = t.overrides owner name type
              ++ (r :: rs).filterMap fun r => r.override? owner name type := by
            cases h : r.override? owner name type <;> simp [h]

/-- The tracker answers exactly. Every registration climbs to the end, and after any run of
them, each with a graph of its own, the overrides found for a method are those that the
registrations have, one for each registration that has one, and in their order. Nothing is
found for an owner under which nothing was recorded. -/
theorem overrides_registered (rs : List Registration) (owner : ClassName) (name : MemberName)
    (type : MethodType ClassName) :
    (∀ (g : ClassGraph) (mixin : Mixin),
      g.climb^[g.size + 1] (.start g mixin.name) = ⟨g.mixinAncestors mixin.name, none⟩) ∧
    List.Forall₂ (fun r entry => r.Overrides owner name type entry)
      (rs.filter fun r => ∃ entry, r.Overrides owner name type entry)
      ((empty.registerAll rs).overrides owner name type) ∧
    ((∀ r ∈ rs, ¬ r.IsBelow owner) → (empty.registerAll rs).overrides owner name type = []) := by
  have hrun : (empty.registerAll rs).overrides owner name type
      = rs.filterMap fun r => r.override? owner name type := by
    rw [overrides_registerAll]
    rfl
  refine ⟨fun g mixin => ClassGraph.iterate_climb_start mixin.name, ?_, ?_⟩
  · rw [hrun]
    exact Registration.forall₂_override? rs
  · intro hnone
    rw [hrun, List.filterMap_eq_nil_iff]
    intro r hr
    exact if_neg (hnone r hr)

end Tracker

/-! ## A ring of mixins -/

namespace Ring

/-- The entry of a mixin below a class. -/
def mixinEntry (name superclass : ClassName) : ClassEntry :=
  { ClassEntry.below superclass name with isMixin := true }

/-- Two mixins that extend each other, a mixin of another package below them, and a mixin that
is below one of them through a class that is none. -/
def graph : ClassGraph where
  entries := [mixinEntry (.literal "m/Left") (.literal "m/Right"),
    mixinEntry (.literal "m/Right") (.literal "m/Left"),
    mixinEntry (.literal "other/Guest") (.literal "m/Left"),
    .below (.literal "m/Left") (.literal "m/Plain"),
    mixinEntry (.literal "m/Low") (.literal "m/Plain")]

/-- A registration of a mixin that has one method, visible in its package. -/
def registration (name : ClassName) : Registration where
  mixin :=
    { name := name
      config := { name := "plain" }
      methods := [{ name := .literal "tick", type := ⟨[], none⟩, flags := {}, role := .plain }] }
  graph := graph

/-- All four mixins are recorded, one of them twice. -/
def registrations : List Registration :=
  [registration (.literal "m/Left"), registration (.literal "other/Guest"),
    registration (.literal "m/Low"), registration (.literal "m/Right"),
    registration (.literal "m/Left")]

/-- Only the mixins of the ring override a method that is visible in their package, each as
often as it was recorded, and nothing is found under the class that is no mixin. -/
theorem overrides_registrations :
    List.Forall₂ (fun r entry => r.Overrides (.literal "m/Right") (.literal "tick") ⟨[], none⟩ entry)
      [registration (.literal "m/Left"), registration (.literal "m/Right"),
        registration (.literal "m/Left")]
      ((Tracker.empty.registerAll registrations).overrides (.literal "m/Right") (.literal "tick")
        ⟨[], none⟩) ∧
    (∀ r ∈ registrations, ¬ r.IsBelow (.literal "m/Plain")) ∧
    (Tracker.empty.registerAll registrations).overrides (.literal "m/Plain") (.literal "tick")
      ⟨[], none⟩ = [] := by
  have hring := (Tracker.overrides_registered registrations (.literal "m/Right")
    (.literal "tick") ⟨[], none⟩).2.1
  have hfilter : (registrations.filter fun r =>
      ∃ entry, r.Overrides (.literal "m/Right") (.literal "tick") ⟨[], none⟩ entry)
      = [registration (.literal "m/Left"), registration (.literal "m/Right"),
        registration (.literal "m/Left")] := by
    decide
  have hplain : ∀ r ∈ registrations, ¬ r.IsBelow (.literal "m/Plain") := by decide
  rw [hfilter] at hring
  exact ⟨hring, hplain, (Tracker.overrides_registered registrations _ _ _).2.2 hplain⟩

end Ring

end ClassGraft
