import ClassGraft.Proofs.Merge.Outcome
import ClassGraft.Proofs.Merge.Sites

/-!
# Applying the same mixins again

When a target is transformed again, its mixins are applied to it as it was at first,
with the allocator that named their members then. The counters of unique members start
over, so those get the names they had. The registry may have served anybody in between;
it is not asked again, because the allocator remembers every handler.

The two passes are compared step by step. What relates them is `Echoes`: the same
target, report and counters, while the second pass keeps the memory that it started
with. A step echoes as long as the memory holds the handler that the first pass named
in it. That is known of the end of the first pass, and handlers that were named stay so.
-/

namespace ClassGraft

/-! ## Remembered handlers -/

namespace Allocator

/-- The handlers that the second allocator has named have the same names here. -/
def Remembers (memory a : Allocator) : Prop :=
  ∀ key name, a.conformed? key = some name → memory.conformed? key = some name

theorem Remembers.refl (a : Allocator) : a.Remembers a := fun _ _ h => h

theorem Remembers.trans {a b c : Allocator} (h : c.Remembers b) (h' : b.Remembers a) :
    c.Remembers a := fun key name hname => h key name (h' key name hname)

/-- A handler that has been named takes its name, and nothing else changes. -/
theorem conform_of_conformed? {a : Allocator} {r : Registry} {mixin : Mixin}
    {handler : MixinMethod} {name : MemberName} (hhandler : handler.role.isHandler = true)
    (hname : a.conformed? ⟨mixin.name, handler.name, handler.type⟩ = some name) :
    (a.conform r mixin handler).outcome = .ok (some name) ∧
      (a.conform r mixin handler).allocator = a := by
  unfold conform
  split
  · next hnone => simp [Role.isHandler, hnone] at hhandler
  · simp only [hname, and_self]

/-- Once a handler got a name, it has been named. -/
theorem conformed?_conform {a : Allocator} {r : Registry} {mixin : Mixin}
    {handler : MixinMethod} {name : MemberName}
    (hname : (a.conform r mixin handler).outcome = .ok (some name)) :
    (a.conform r mixin handler).allocator.conformed? ⟨mixin.name, handler.name, handler.type⟩
      = some name := by
  unfold conform at hname ⊢
  split at hname
  · cases hname
  · dsimp only at hname ⊢
    split at hname
    · next earlier hearlier =>
      cases hname
      simp only [hearlier]
    · next hnone =>
      split at hname
      · cases hname
      · next new hnew =>
        cases hname
        exact List.lookup_cons_self

/-- Handlers that were named stay so. -/
theorem isKept_remembers (a : Allocator) : IsKept fun b => b.Remembers a where
  congr := by
    intro b c _ hconformed hb key name hname
    rw [conformed?, hconformed]
    exact hb key name hname
  conform := by
    intro b r mixin handler hb
    refine Remembers.trans ?_ hb
    intro key name hname
    unfold conform
    split
    · exact hname
    · dsimp only
      split
      · exact hname
      · next hnone =>
        split
        · exact hname
        · -- The handler that is new here is none of those.
          simp only [conformed?, List.lookup_cons]
          split
          · next hkey =>
            rw [← eq_of_beq hkey, hname] at hnone
            cases hnone
          · exact hname

end Allocator

/-! ## Two allocators side by side -/

/-- The second allocator has counted as far as the first one, with handlers named as the
memory says. -/
structure Allocator.Echoes (memory a b : Allocator) : Prop where
  nextMethod : b.nextMethod = a.nextMethod
  nextField : b.nextField = a.nextField
  conformed : b.conformed = memory.conformed

namespace Allocator.Echoes

variable {memory a b : Allocator}

/-- Unique fields get their names from the counter, which both share. -/
theorem uniqueField (h : memory.Echoes a b) (source : Option Text) (session name : Text) :
    (b.uniqueField source session name).1 = (a.uniqueField source session name).1 ∧
      memory.Echoes (a.uniqueField source session name).2
        (b.uniqueField source session name).2 := by
  simp only [Allocator.uniqueField, h.nextField, true_and]
  exact ⟨h.nextMethod, rfl, h.conformed⟩

/-- So do unique methods. -/
theorem uniqueMethod (h : memory.Echoes a b) (source : Option Text) (session name : Text)
    (keepsStart : Bool) :
    (b.uniqueMethod source session name keepsStart).1
        = (a.uniqueMethod source session name keepsStart).1 ∧
      memory.Echoes (a.uniqueMethod source session name keepsStart).2
        (b.uniqueMethod source session name keepsStart).2 := by
  simp only [Allocator.uniqueMethod, h.nextMethod, true_and]
  exact ⟨rfl, h.nextField, h.conformed⟩

/-- A handler gets its name from the memory, if the first allocator left it there. The
registries need not be the same. -/
theorem conform (h : memory.Echoes a b) (r r' : Registry) {mixin : Mixin} {handler : MixinMethod}
    (hhandler : handler.role.isHandler = true)
    (hmemory : memory.Remembers (a.conform r mixin handler).allocator) :
    (b.conform r' mixin handler).outcome = (a.conform r mixin handler).outcome ∧
      memory.Echoes (a.conform r mixin handler).allocator
        (b.conform r' mixin handler).allocator := by
  obtain ⟨name?, hfirst⟩ := a.exists_conform_outcome r mixin handler
  cases name? with
  | none => exact absurd hfirst (conform_outcome_ne_none hhandler)
  | some name =>
      have hremembered : b.conformed? ⟨mixin.name, handler.name, handler.type⟩ = some name := by
        rw [conformed?, h.conformed]
        exact hmemory _ _ (conformed?_conform hfirst)
      obtain ⟨hagain, hsame⟩ := conform_of_conformed? (r := r') hhandler hremembered
      obtain ⟨hmethod, hfield⟩ := a.counters_conform r mixin handler
      refine ⟨hagain.trans hfirst.symm, ?_⟩
      rw [hsame]
      exact ⟨h.nextMethod.trans hmethod.symm, h.nextField.trans hfield.symm, h.conformed⟩

end Allocator.Echoes

namespace Merge

variable {memory : Allocator} {settings : Settings} {mixin : Mixin}

/-! ## One step of two passes -/

/-- The second state stands where the first one does. -/
structure Echoes (memory : Allocator) (s t : MergeState) : Prop where
  target : t.target = s.target
  report : t.report = s.report
  allocator : memory.Echoes s.allocator t.allocator

namespace Echoes

variable {s t : MergeState}

theorem note (h : Echoes memory s t) (ns ns' : List Notice) :
    Echoes memory (s.note ns) (t.note ns') :=
  ⟨h.target, h.report, h.allocator⟩

/-- A name was handed out. -/
theorem named (h : Echoes memory s t) {a b : Allocator} (hnamed : memory.Echoes a b)
    (r r' : Registry) (ns ns' : List Notice) :
    Echoes memory { s.note ns with allocator := a, registry := r }
      { t.note ns' with allocator := b, registry := r' } :=
  ⟨h.target, h.report, hnamed⟩

theorem skip (h : Echoes memory s t) (signature : Text) :
    Echoes memory (s.skip signature) (t.skip signature) := by
  refine ⟨h.target, ?_, h.allocator⟩
  simp only [MergeState.skip, h.report]

theorem pushField (h : Echoes memory s t) (f : MixinField) (name : MemberName) :
    Echoes memory (Merge.pushField s f name) (Merge.pushField t f name) := by
  refine ⟨?_, ?_, h.allocator⟩
  · simp only [Merge.pushField, h.target]
  · simp only [Merge.pushField, h.report]

theorem putMethod (h : Echoes memory s t) (m : MixinMethod) (name : MemberName) :
    Echoes memory (Merge.putMethod mixin s m name) (Merge.putMethod mixin t m name) := by
  refine ⟨?_, ?_, h.allocator⟩
  · simp only [Merge.putMethod, h.target]
  · simp only [Merge.putMethod, h.report]

theorem rename (h : Echoes memory s t) (declared renamed : MemberName) :
    Echoes memory (s.rename declared renamed) (t.rename declared renamed) := by
  refine ⟨h.target, ?_, h.allocator⟩
  simp only [MergeState.rename, h.report]

/-! ### Before the methods -/

theorem addInterface (h : Echoes memory s t) (i : ClassName) :
    Echoes memory (Merge.addInterface s i) (Merge.addInterface t i) := by
  unfold Merge.addInterface
  rw [h.target]
  split
  · exact h
  · exact ⟨rfl, by rw [h.report], h.allocator⟩

theorem mergeShadow (h : Echoes memory s t) (f : MixinField) :
    Echoes memory (Merge.mergeShadow mixin s f) (Merge.mergeShadow mixin t f) := by
  unfold Merge.mergeShadow
  rw [h.target]
  cases s.target.kind with
  | interface => exact h.note _ _
  | cls =>
      dsimp only
      split
      · exact ⟨rfl, h.report, h.allocator⟩
      · exact h

theorem before_fields (h : Echoes memory s t) :
    Echoes memory (mergeShadows mixin (addInterfaces mixin s))
      (mergeShadows mixin (addInterfaces mixin t)) := by
  have hinterfaces : Echoes memory (addInterfaces mixin s) (addInterfaces mixin t) :=
    List.foldl_rel h fun i _ _ _ hst => hst.addInterface i
  exact List.foldl_rel hinterfaces fun f _ _ _ hst => hst.mergeShadow f

theorem mergeField (h : Echoes memory s t) (f : MixinField) :
    Runs.Alike (Echoes memory) (Merge.mergeField settings mixin s f)
      (Merge.mergeField settings mixin t f) := by
  obtain ⟨hname, hcounted⟩ :=
    h.allocator.uniqueField mixin.sourceId settings.session f.name.text
  unfold Merge.mergeField
  rw [h.target]
  split
  · split
    · dsimp only
      rw [hname]
      split
      · exact .error _ (h.named hcounted _ _ _ _)
      · exact .ok (((h.named hcounted _ _ _ _).rename _ _).pushField f _)
    · exact .ok ((h.note _ _).skip _)
  · exact .ok (h.pushField f _)

theorem mergeFields (h : Echoes memory s t) :
    Runs.Alike (Echoes memory) (Merge.mergeFields settings mixin s)
      (Merge.mergeFields settings mixin t) :=
  Runs.foldlM_alike (P := fun _ => True) (fun _ _ _ => trivial)
    (fun _ _ f hst _ => hst.mergeField f) h trivial

/-! ### Methods -/

theorem mergeUnique (h : Echoes memory s t) (m : MixinMethod) (keepsStart : Bool) :
    Runs.Alike (Echoes memory) (Merge.mergeUnique settings mixin s m keepsStart)
      (Merge.mergeUnique settings mixin t m keepsStart) := by
  obtain ⟨hname, hcounted⟩ :=
    h.allocator.uniqueMethod mixin.sourceId settings.session m.name.text keepsStart
  unfold Merge.mergeUnique
  dsimp only
  rw [hname]
  split
  · exact .error _ (h.named hcounted _ _ _ _)
  · exact .ok (((h.named hcounted _ _ _ _).rename _ _).putMethod m _)

theorem mergeHandler (h : Echoes memory s t) {m : MixinMethod}
    (hhandler : m.role.isHandler = true)
    (hmemory : memory.Remembers (Runs.final (Merge.mergeHandler mixin s m)).allocator) :
    Runs.Alike (Echoes memory) (Merge.mergeHandler mixin s m) (Merge.mergeHandler mixin t m) := by
  have hconformed : (Runs.final (Merge.mergeHandler mixin s m)).allocator
      = (s.allocator.conform s.registry mixin m).allocator := by
    unfold Merge.mergeHandler
    dsimp only
    split <;> rfl
  rw [hconformed] at hmemory
  obtain ⟨hname, hnamed⟩ := h.allocator.conform s.registry t.registry hhandler hmemory
  unfold Merge.mergeHandler
  dsimp only
  rw [hname]
  split
  · exact .error _ (h.named hnamed _ _ _ _)
  · exact .ok (((h.named hnamed _ _ _ _).rename _ _).putMethod m _)
  · exact .ok ((h.named hnamed _ _ _ _).putMethod m m.name)

theorem mergeBody (h : Echoes memory s t) (m : MixinMethod)
    (hmemory : memory.Remembers (Runs.final (Merge.mergeBody settings mixin s m)).allocator) :
    Runs.Alike (Echoes memory) (Merge.mergeBody settings mixin s m)
      (Merge.mergeBody settings mixin t m) := by
  unfold Merge.mergeBody at hmemory ⊢
  rw [h.target]
  dsimp only at hmemory ⊢
  cases hrole : m.role with
  | handler injector =>
      rw [hrole] at hmemory
      exact h.mergeHandler (by rw [hrole]; rfl) hmemory
  | unique =>
      dsimp only
      split
      · exact h.mergeUnique m false
      · exact .ok (h.putMethod m m.name)
  | plain | shadow | overwrite =>
      dsimp only
      split
      · split
        · exact h.mergeUnique m true
        · exact .ok ((h.note _ _).putMethod m m.name)
      · exact .ok (h.putMethod m m.name)

/-- Methods keep two passes together, as long as the memory holds what the first one
named. -/
theorem mergeMethod (h : Echoes memory s t) (m : MixinMethod)
    (hmemory : memory.Remembers (Runs.final (Merge.mergeMethod settings mixin s m)).allocator) :
    Runs.Alike (Echoes memory) (Merge.mergeMethod settings mixin s m)
      (Merge.mergeMethod settings mixin t m) := by
  unfold Merge.mergeMethod at hmemory ⊢
  rw [h.target]
  split
  · exact .ok h
  next hrole =>
  rw [if_neg hrole] at hmemory
  split
  · split
    · exact .ok (h.skip _)
    · exact .ok ⟨rfl, by rw [h.report], h.allocator⟩
  next hname =>
  rw [if_neg hname] at hmemory
  split
  · exact .ok (h.skip _)
  next hstatic =>
  rw [if_neg hstatic] at hmemory
  exact h.mergeBody m hmemory

/-! ### The whole merge -/

theorem mergeMethods (h : Echoes memory s t) {ms : List MixinMethod}
    (hmemory : memory.Remembers (Runs.final (Merge.mergeMethods settings mixin ms s)).allocator) :
    Runs.Alike (Echoes memory) (Merge.mergeMethods settings mixin ms s)
      (Merge.mergeMethods settings mixin ms t) := by
  refine Runs.foldlM_alike (P := fun s : MergeState => memory.Remembers s.allocator) ?_
    (fun _ _ m hst hm => hst.mergeMethod m hm) h hmemory
  intro s m hm
  exact hm.trans ((Allocator.isKept_remembers s.allocator).mergeMethod (.refl _) settings mixin m)

theorem mergeAll (h : Echoes memory s t) {ms : List MixinMethod}
    (hmemory : memory.Remembers (Runs.final (Merge.mergeAll settings mixin ms s)).allocator) :
    Runs.Alike (Echoes memory) (Merge.mergeAll settings mixin ms s)
      (Merge.mergeAll settings mixin ms t) := by
  have hbefore : Echoes memory (mergeShadows mixin (addInterfaces mixin s))
      (mergeShadows mixin (addInterfaces mixin t)) := h.before_fields
  unfold Merge.mergeAll at hmemory ⊢
  dsimp only at hmemory ⊢
  rw [hbefore.target]
  cases hkind : (mergeShadows mixin (addInterfaces mixin s)).target.kind with
  | interface =>
      rw [hkind] at hmemory
      exact hbefore.mergeMethods hmemory
  | cls =>
      rw [hkind] at hmemory
      refine hbefore.mergeFields.bind ?_
      intro u v hu huv
      dsimp only at hmemory
      rw [hu] at hmemory
      exact huv.mergeMethods hmemory

end Echoes

/-- A mixin that is applied again comes to the same, at whatever registry. -/
theorem echoes_apply {a b : Allocator} {target : Target} {r : Registry} (r' : Registry)
    (h : memory.Echoes a b)
    (hmemory : memory.Remembers (apply settings target mixin a r).allocator) :
    (apply settings target mixin b r').outcome = (apply settings target mixin a r).outcome ∧
      (apply settings target mixin b r').target = (apply settings target mixin a r).target ∧
      memory.Echoes (apply settings target mixin a r).allocator
        (apply settings target mixin b r').allocator := by
  unfold apply at hmemory ⊢
  split
  · exact ⟨rfl, rfl, h⟩
  next haudit =>
  rw [haudit] at hmemory
  split
  · exact ⟨rfl, rfl, h⟩
  next methods hprep =>
  simp only [hprep] at hmemory
  have hstart : Echoes memory { target, allocator := a, registry := r }
      { target, allocator := b, registry := r' } := ⟨rfl, rfl, h⟩
  have hfinal : memory.Remembers (Runs.final (mergeAll settings mixin methods
      { target, allocator := a, registry := r })).allocator := by
    cases hrun : mergeAll settings mixin methods { target, allocator := a, registry := r } with
    | ok u =>
        rw [hrun] at hmemory
        exact hmemory
    | error failure =>
        rw [hrun] at hmemory
        exact hmemory
  have hruns : Runs.Alike (Echoes memory)
      (mergeAll settings mixin methods { target, allocator := a, registry := r })
      (mergeAll settings mixin methods { target, allocator := b, registry := r' }) :=
    hstart.mergeAll hfinal
  generalize mergeAll settings mixin methods { target, allocator := a, registry := r } = first
    at hruns
  generalize mergeAll settings mixin methods { target, allocator := b, registry := r' } = second
    at hruns
  cases hruns with
  | ok hst => exact ⟨congrArg Except.ok hst.report, hst.target, hst.allocator⟩
  | error fault hst => exact ⟨rfl, hst.target, hst.allocator⟩

end Merge

/-! ## Two passes -/

namespace Site

/-- What applying the mixins in their order comes to, each time. -/
def outcomes (settings : Settings) (site : Site) : List Mixin → List (Except ApplyError Report)
  | [] => []
  | mixin :: mixins =>
    (site.applied settings mixin).outcome
      :: (site.step (.apply settings mixin)).outcomes settings mixins

/-- Requests of other allocators change the registry only. -/
theorem run_serve (site : Site) (requests : List Request) :
    site.run (requests.map Event.serve) = { site with registry := site.registry.run requests } := by
  induction requests generalizing site with
  | nil => rfl
  | cons request requests ih => exact ih (site.step (.serve request))

/-- A pass echoes another one over the same target, if the memory holds all handlers that
the other one named. -/
theorem echoes_pass {memory : Allocator} (settings : Settings) {mixins : List Mixin}
    {first second : Site} (htarget : second.target = first.target)
    (h : memory.Echoes first.allocator second.allocator)
    (hmemory : memory.Remembers (first.run (mixins.map (Event.apply settings))).allocator) :
    second.outcomes settings mixins = first.outcomes settings mixins ∧
      (second.run (mixins.map (Event.apply settings))).target
        = (first.run (mixins.map (Event.apply settings))).target := by
  induction mixins generalizing first second with
  | nil => exact ⟨rfl, htarget⟩
  | cons mixin mixins ih =>
      -- What the first pass named by now is named at its end.
      have hafter : memory.Remembers (first.step (.apply settings mixin)).allocator :=
        hmemory.trans ((Allocator.isKept_remembers _).run (.refl _)
          (mixins.map (Event.apply settings)))
      obtain ⟨target, b, r'⟩ := second
      obtain rfl : target = first.target := htarget
      obtain ⟨houtcome, hsame, hecho⟩ := Merge.echoes_apply r' h hafter
      have htarget' : (step ⟨first.target, b, r'⟩ (.apply settings mixin)).target
          = (first.step (.apply settings mixin)).target := hsame
      obtain ⟨houtcomes, hend⟩ := ih htarget' hecho hmemory
      refine ⟨?_, hend⟩
      rw [outcomes, outcomes, houtcomes]
      exact congrArg (· :: _) houtcome

/-- Applying mixins again to the target as it was at first, after the counters of unique
members have started over, comes to the same each time, and to the same target. Other
allocators may have asked the registry for anything in between. -/
theorem reapplied_alike (site : Site) (settings : Settings) (mixins : List Mixin)
    (requests : List Request) (hmethod : site.allocator.nextMethod = 0)
    (hfield : site.allocator.nextField = 0) :
    let first := site.run (mixins.map (Event.apply settings))
    let again := { first.run (.reset :: requests.map Event.serve) with target := site.target }
    again.outcomes settings mixins = site.outcomes settings mixins ∧
      (again.run (mixins.map (Event.apply settings))).target = first.target := by
  intro first again
  have hreset : again.allocator = first.allocator.reset :=
    congrArg Site.allocator (run_serve (first.step .reset) requests)
  refine echoes_pass settings rfl ⟨?_, ?_, ?_⟩ (Allocator.Remembers.refl first.allocator)
  · rw [hreset, hmethod]
    rfl
  · rw [hreset, hfield]
    rfl
  · rw [hreset]
    rfl

end Site

/-! ### A player -/

namespace Player

/-- A class with a counter of jumps. -/
def target : Target where
  name := .literal "game/Player"
  kind := .cls
  fields := [{ name := .literal "jumps", type := .primitive .int, flags := { isPrivate := true } }]

/-- A mixin with a counter of its own, and a handler. -/
def mixin : Mixin where
  name := .literal "coolmod/mixin/PlayerMixin"
  config := { name := "coolmod", source := some (Text.ofString "cool-mod") }
  fields :=
    [{ name := .literal "jumps"
       type := .primitive .int
       flags := { isPrivate := true }
       role := .unique }]
  methods :=
    [{ name := .literal "cool_mod_onJump"
       type := { parameters := [.primitive .boolean], result := none }
       flags := { isPrivate := true }
       role := .handler .redirect }]

/-- Another target asks for a handler of the same name and type. -/
def otherRequest : Request :=
  .handler (some (Text.ofString "cool_mod")) (Text.ofString "redirect") (.literal "game/World")
    (Text.ofString "onJump") (Text.ofString "(Z)V") false

/-- The class before anything happened to it. -/
def site : Site := .fresh target .empty

/-- The class after the mixin was applied to it. -/
def first : Site := site.run ([mixin].map (Site.Event.apply (Merge.sessionAt .java8)))

/-- The class as it was at first, with the allocator and the registry of later. -/
def again : Site :=
  { first.run (.reset :: [otherRequest].map Site.Event.serve) with target := site.target }

example : first.target.fields.map (·.name.text.toStr) = ["jumps", "fdefwxyz$cool_mod$jumps$0"] ∧
    first.target.methods.map (·.name.text.toStr) = ["redirect$zza000$cool_mod$onJump"] := by
  decide +kernel

/-- The mixin is applied to the player again, and nothing is called otherwise. -/
theorem reapplied_alike_player :
    site.allocator.nextMethod = 0 ∧ site.allocator.nextField = 0 ∧
      again.outcomes (Merge.sessionAt .java8) [mixin]
        = site.outcomes (Merge.sessionAt .java8) [mixin] ∧
      (again.run ([mixin].map (Site.Event.apply (Merge.sessionAt .java8)))).target
        = first.target :=
  ⟨rfl, rfl, site.reapplied_alike (Merge.sessionAt .java8) [mixin] [otherRequest] rfl rfl⟩

end Player

end ClassGraft
