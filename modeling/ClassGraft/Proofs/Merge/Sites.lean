import ClassGraft.Proofs.Merge.Steps
import ClassGraft.Proofs.Naming.Requests

/-!
# Targets over time

A site is a target with its allocator and the registry that all allocators share.
Mixins are applied to it one after the other, with any settings, and with success
or not; in between the allocator may be reset, and other allocators may ask the
registry for whatever they like. What holds of a fresh site and is preserved by each
of these events holds of every site that a run of them leads to.

`Allocator.IsKept` says of a property of the handlers that have names that applying
mixins preserves it. One such property is proved here: every name that an allocator
remembers for a handler was generated for a method of that name and type.
-/

namespace ClassGraft

/-- A target, the allocator of its names, and the shared registry. -/
structure Site where
  target : Target
  allocator : Allocator
  registry : Registry

namespace Site

/-- What can happen to a site. -/
inductive Event where
  /-- A mixin is applied to the target. -/
  | apply (settings : Settings) (mixin : Mixin)
  /-- The counters of unique members start over. -/
  | reset
  /-- Another allocator makes a request to the registry. -/
  | serve (request : Request)

/-- A target for which nothing has been named, with any registry. -/
def fresh (target : Target) (registry : Registry) : Site :=
  { target, allocator := .new target.name, registry }

/-- What applying a mixin at the site comes to. -/
def applied (site : Site) (settings : Settings) (mixin : Mixin) : Applied :=
  Merge.apply settings site.target mixin site.allocator site.registry

/-- The site after an event. -/
def step (site : Site) : Event → Site
  | .apply settings mixin =>
    let after := site.applied settings mixin
    { target := after.target, allocator := after.allocator, registry := after.registry }
  | .reset => { site with allocator := site.allocator.reset }
  | .serve request => { site with registry := (site.registry.serve request).2 }

/-- The site after a run of events. -/
def run (site : Site) (events : List Event) : Site := events.foldl step site

/-- What every event preserves, a run preserves. -/
theorem run_induction {P : Site → Prop} (hstep : ∀ site event, P site → P (site.step event))
    {site : Site} (hsite : P site) (events : List Event) : P (site.run events) := by
  induction events generalizing site with
  | nil => exact hsite
  | cons event events ih => exact ih (hstep site event hsite)

end Site

/-! ## What an allocator keeps -/

/-- A property of the handlers that an allocator has named, which naming one more
handler preserves. -/
structure Allocator.IsKept (P : Allocator → Prop) : Prop where
  congr : ∀ {a b : Allocator}, b.target = a.target → b.conformed = a.conformed → P a → P b
  conform : ∀ {a : Allocator} (r : Registry) (mixin : Mixin) (handler : MixinMethod), P a →
    P (a.conform r mixin handler).allocator

namespace Allocator.IsKept

variable {P : Allocator → Prop}

/-- Merging a method preserves it, whether it succeeds or fails. -/
theorem mergeMethod (hP : IsKept P) {s : MergeState} (hs : P s.allocator) (settings : Settings)
    (mixin : Mixin) (m : MixinMethod) :
    P (Runs.final (Merge.mergeMethod settings mixin s m)).allocator := by
  cases hmerge : Merge.mergeMethod settings mixin s m with
  | error failure =>
      have hsame := Merge.untouched_of_mergeMethod_error hmerge
      exact hP.congr hsame.owner hsame.conformed hs
  | ok t =>
      cases Merge.methodStep_of_mergeMethod hmerge with
      | shadow => exact hs
      | initialiser => exact hs
      | skipped => exact hs
      | declared => exact hs
      | unique => exact hP.congr (a := s.allocator) rfl rfl hs
      | handler => exact hP.conform s.registry mixin m hs

/-- So does applying a mixin. -/
theorem apply (hP : IsKept P) {a : Allocator} (ha : P a) (settings : Settings) (target : Target)
    (mixin : Mixin) (registry : Registry) :
    P (Merge.apply settings target mixin a registry).allocator := by
  rcases Merge.apply_cases settings target mixin a registry with
    ⟨errors, hrefused⟩ | ⟨methods, run, _, hmerge, _, hallocator, _⟩
  · rw [hrefused]
    exact ha
  · rw [hallocator, ← hmerge]
    obtain ⟨u, hsame, hmethods | ⟨fault, hfailed⟩⟩ :=
      Merge.mergeAll_cases settings mixin methods { target, allocator := a, registry }
    · rw [hmethods]
      exact Runs.foldlM_final_induction (P := fun s : MergeState => P s.allocator)
        (fun s m hs => hP.mergeMethod hs settings mixin m)
        (hP.congr hsame.owner hsame.conformed ha)
    · rw [hfailed]
      exact hP.congr hsame.owner hsame.conformed ha

/-- So does whatever happens to a site. -/
theorem run (hP : IsKept P) {site : Site} (hsite : P site.allocator) (events : List Site.Event) :
    P (site.run events).allocator := by
  refine Site.run_induction (P := fun site => P site.allocator) ?_ hsite events
  intro site event hsite
  cases event with
  | apply settings mixin => exact hP.apply hsite settings site.target mixin site.registry
  | reset => exact hP.congr (a := site.allocator) rfl rfl hsite
  | serve request => exact hsite

end Allocator.IsKept

/-! ## Generated names -/

/-- The names that the allocator of a target makes for methods of this name and
type, whatever the mixin and whenever it is asked. -/
inductive IsGenerated (target : ClassName) (name : MemberName) (type : MethodType ClassName) :
    Text → Prop
  | unique (config : MixinConfig) (session : Text) (keepsStart : Bool) (number : UInt32) :
      IsGenerated target name type
        (Allocator.uniqueMethodText config.sourceId session name.text keepsStart number)
  | handler (config : MixinConfig) (registry : Registry) (injector : Injector)
      (isSurrogate : Bool) :
      IsGenerated target name type
        (registry.handlerName config.sourceId (Text.ofString injector.handlerWord) target name.text
          type.render isSurrogate).1

/-- All of them hold a dollar sign. -/
theorem IsGenerated.dollar_mem {target : ClassName} {name : MemberName}
    {type : MethodType ClassName} {t : Text} (h : IsGenerated target name type t) : '$' ∈ t := by
  cases h with
  | unique config session keepsStart number =>
      unfold Allocator.uniqueMethodText
      cases keepsStart <;> simp
  | handler config registry injector isSurrogate => simp [Registry.handlerName]

/-- The allocator remembers generated names only. -/
def Allocator.IsSound (a : Allocator) : Prop :=
  ∀ key name, a.conformed? key = some name → IsGenerated a.target key.name key.type name.text

/-- At first it remembers none. -/
theorem Allocator.isSound_new (target : ClassName) : (new target).IsSound := by
  intro key name hname
  cases hname

namespace Allocator.IsSound

variable {a b : Allocator}

theorem congr (ha : a.IsSound) (htarget : b.target = a.target)
    (hconformed : b.conformed = a.conformed) : b.IsSound := by
  intro key name hname
  rw [conformed?, hconformed] at hname
  rw [htarget]
  exact ha key name hname

/-- A handler gets a generated name, be it an earlier one or a new one. -/
theorem conform (ha : a.IsSound) (r : Registry) (mixin : Mixin) (handler : MixinMethod) :
    (a.conform r mixin handler).allocator.IsSound ∧
      ∀ name, (a.conform r mixin handler).outcome = .ok (some name) →
        IsGenerated a.target handler.name handler.type name.text := by
  unfold Allocator.conform
  split
  · exact ⟨ha, by simp⟩
  · next injector _ =>
    dsimp only
    split
    · next name hname =>
      refine ⟨ha, ?_⟩
      rintro _ ⟨⟩
      exact ha _ name hname
    · split
      · exact ⟨ha, by simp⟩
      · next name hname =>
        have hgenerated : IsGenerated a.target handler.name handler.type name.text := by
          rw [← MemberName.ofText_eq_ok_iff.mp hname]
          exact .handler mixin.config r injector handler.isSurrogate
        refine ⟨?_, ?_⟩
        · intro key other hother
          simp only [conformed?, List.lookup_cons] at hother
          split at hother
          · next hkey =>
            cases hother
            rw [eq_of_beq hkey]
            exact hgenerated
          · exact ha key other hother
        · rintro _ ⟨⟩
          exact hgenerated

/-- So applying a mixin keeps the allocator sound. -/
theorem isKept : Allocator.IsKept Allocator.IsSound where
  congr := fun htarget hconformed ha => ha.congr htarget hconformed
  conform := fun r mixin handler ha => (ha.conform r mixin handler).1

end Allocator.IsSound

namespace Site

/-- A site that some run of events leads to from a fresh one. -/
def IsReached (site : Site) : Prop :=
  ∃ target registry events, site = (fresh target registry).run events

/-- At such a site, the allocator is sound. -/
theorem IsReached.isSound {site : Site} (h : site.IsReached) : site.allocator.IsSound := by
  obtain ⟨target, registry, events, rfl⟩ := h
  exact Allocator.IsSound.isKept.run (Allocator.isSound_new target.name) events

end Site

end ClassGraft
