import Mathlib.Logic.Function.Basic
import ClassGraft.Proofs.FirstSeen
import ClassGraft.Proofs.Naming.Letters
import ClassGraft.Proofs.Naming.Occurrences
import ClassGraft.Proofs.Naming.Validity

/-!
# Class numbers

Classes get their numbers from one registry, and whoever shares it can be the first to ask
for a class: by its number, by its letters, or by the name of a handler in it. An allocator
that has named a handler before does not ask again, but then the class of its target has
been asked for already.

`Sharing` is a registry with all the allocators that share it, and a `Demand` is anything
that can be asked of them. The main statement says what number every answer has in it: how
many other classes were asked for before the class was asked for first. The numbers are
those below the count of classes, and no two classes share one, nor its letters.
-/

namespace ClassGraft

namespace Naming

/-! ## Handler names -/

/-- The name of a handler that has these numbers. -/
def handlerText (word : Text) (id : Nat) (number : UInt32) (source : Option Text) (name : Text) :
    Text :=
  word ++ '$' :: classLetters id ++ occurrenceDigits number
    ++ '$' :: sourceMark (sourceNamespace source) ++ stripSource name (sourceNamespace source)

end Naming

namespace Registry

/-- A registry that is asked for a class for the first time puts it behind the others. -/
theorem classes_classId_eq (r : Registry) (c : ClassName) :
    (r.classId c).2.classes = if c ∈ r.classes then r.classes else r.classes ++ [c] := by
  unfold classId
  split
  · next id hid => rw [if_pos (List.isSome_idxOf?.mp (by simp [hid]))]
  · next hnone => rw [if_neg (List.idxOf?_eq_none_iff.mp hnone)]

/-- A handler is named by the number of its class and that of its occurrence. -/
theorem exists_handlerName_eq (r : Registry) (source : Option Text) (word : Text)
    (target : ClassName) (name descriptor : Text) (isSurrogate : Bool) :
    ∃ number, (r.handlerName source word target name descriptor isSurrogate).1
      = Naming.handlerText word (r.classId target).1 number source name :=
  ⟨_, rfl⟩

end Registry

/-! ## What an allocator does with a handler -/

namespace Allocator

/-- A handler that an allocator names takes the name that it has, or gets a new one from the
registry and keeps it. -/
inductive Conforms (a : Allocator) (r : Registry) (mixin : Mixin) (handler : MixinMethod) :
    Conforming → Prop
  | known {c : Conforming} (name : MemberName)
      (hknown : a.conformed? ⟨mixin.name, handler.name, handler.type⟩ = some name)
      (houtcome : c.outcome = .ok (some name)) (hallocator : c.allocator = a)
      (hregistry : c.registry = r) : Conforms a r mixin handler c
  | named {c : Conforming} (injector : Injector) (name : MemberName)
      (hname : name.text = (r.handlerName mixin.config.sourceId
        (Text.ofString injector.handlerWord) a.target handler.name.text handler.type.render
        handler.isSurrogate).1)
      (houtcome : c.outcome = .ok (some name))
      (hallocator : c.allocator = { a with
        conformed := (⟨mixin.name, handler.name, handler.type⟩, name) :: a.conformed })
      (hregistry : c.registry.classes = (r.classId a.target).2.classes) :
      Conforms a r mixin handler c

theorem conforms (a : Allocator) (r : Registry) (mixin : Mixin) {handler : MixinMethod}
    (h : handler.role.isHandler = true) :
    a.Conforms r mixin handler (a.conform r mixin handler) := by
  unfold conform
  split
  · next hnone => simp [Role.isHandler, hnone] at h
  · next injector _ =>
    dsimp only
    split
    · next name hknown => exact .known name hknown rfl rfl rfl
    · split
      · next fault hfault =>
        -- Handlers get member names, so this does not happen.
        obtain ⟨name, hname⟩ := MemberName.exists_ofText_eq_ok_iff.mpr
          (isMemberName_handlerName mixin.config handler.name r injector a.target
            handler.type.render handler.isSurrogate)
        rw [handlerName, Mixin.sourceId, hname] at hfault
        cases hfault
      · next name hname =>
        exact .named injector name (MemberName.ofText_eq_ok_iff.mp hname).symm rfl rfl rfl

/-- A method that is no handler changes nothing. -/
theorem conform_of_isHandler_eq_false (a : Allocator) (r : Registry) (mixin : Mixin)
    {method : MixinMethod} (h : method.role.isHandler = false) :
    a.conform r mixin method = { outcome := .ok none, allocator := a, registry := r, notices := [] } := by
  unfold conform
  split
  · rfl
  · next injector hsome => simp [Role.isHandler, hsome] at h

end Allocator

/-! ## Demands -/

/-- A registry, and the allocators that share it. -/
structure Sharing (ι : Type) where
  registry : Registry
  allocators : ι → Allocator

/-- The class that the call asks for. -/
def Call.class? : Call → Option ClassName
  | classNumber c => some c
  | request (.letters c) => some c
  | request (.digits _ _ _) => none
  | request (.handler _ _ target _ _ _) => some target

namespace Sharing

variable {ι : Type}

/-- What can be asked of a registry and of the allocators that share it. -/
inductive Demand (ι : Type) where
  /-- Something of the registry itself. -/
  | call (c : Call)
  /-- The name of a handler in the target of an allocator. -/
  | handlerName (i : ι) (source : Option Text) (word name descriptor : Text) (isSurrogate : Bool)
  /-- The name that a method of a mixin has in the target of an allocator, if it is a
  handler. -/
  | conform (i : ι) (mixin : Mixin) (method : MixinMethod)
  | uniqueMethod (i : ι) (source : Option Text) (session name : Text) (keepsStart : Bool)
  | uniqueField (i : ι) (source : Option Text) (session name : Text)
  /-- That an allocator counts its unique members from the start. -/
  | reset (i : ι)

/-- The class that a demand is about, where allocators have these targets. -/
def Demand.class? (targets : ι → ClassName) : Demand ι → Option ClassName
  | call c => c.class?
  | handlerName i _ _ _ _ _ => some (targets i)
  | conform i _ method => if method.role.isHandler then some (targets i) else none
  | uniqueMethod _ _ _ _ _ => none
  | uniqueField _ _ _ _ => none
  | reset _ => none

/-- What a demand is answered. -/
inductive Reply where
  | answer (a : Answer)
  /-- The name of a handler, and none for another method. -/
  | name (outcome : Except NameError (Option MemberName))
  | done
  deriving DecidableEq

/-- A new registry, and a new allocator for each target. -/
def new (targets : ι → ClassName) : Sharing ι := ⟨.empty, fun i => .new (targets i)⟩

variable [DecidableEq ι]

/-- What a demand is answered, and what is left. -/
def serve (s : Sharing ι) : Demand ι → Reply × Sharing ι
  | .call c => (.answer (s.registry.call c).1, { s with registry := (s.registry.call c).2 })
  | .handlerName i source word name descriptor isSurrogate =>
    let named := (s.allocators i).handlerName s.registry source word name descriptor isSurrogate
    (.answer (.text named.1), { s with registry := named.2 })
  | .conform i mixin method =>
    let conforming := (s.allocators i).conform s.registry mixin method
    (.name conforming.outcome,
      ⟨conforming.registry, Function.update s.allocators i conforming.allocator⟩)
  | .uniqueMethod i source session name keepsStart =>
    let named := (s.allocators i).uniqueMethod source session name keepsStart
    (.answer (.text named.1), { s with allocators := Function.update s.allocators i named.2 })
  | .uniqueField i source session name =>
    let named := (s.allocators i).uniqueField source session name
    (.answer (.text named.1), { s with allocators := Function.update s.allocators i named.2 })
  | .reset i =>
    (.done, { s with allocators := Function.update s.allocators i (s.allocators i).reset })

/-- The reply has the number of a class in it: as such, in letters, or in the name of a
handler. A handler that was named before has the name it got then. -/
inductive Tells (id : Nat) : Demand ι → Reply → Prop
  | number (c : ClassName) : Tells id (.call (.classNumber c)) (.answer (.number id))
  | letters (c : ClassName) :
      Tells id (.call (.request (.letters c))) (.answer (.text (Naming.classLetters id)))
  | request (source : Option Text) (word : Text) (target : ClassName) (name descriptor : Text)
      (isSurrogate : Bool) (number : UInt32) :
      Tells id (.call (.request (.handler source word target name descriptor isSurrogate)))
        (.answer (.text (Naming.handlerText word id number source name)))
  | handlerName (i : ι) (source : Option Text) (word name descriptor : Text) (isSurrogate : Bool)
      (number : UInt32) :
      Tells id (.handlerName i source word name descriptor isSurrogate)
        (.answer (.text (Naming.handlerText word id number source name)))
  | conform (i : ι) (mixin : Mixin) (method : MixinMethod) (injector : Injector)
      (config : MixinConfig) (number : UInt32) (name : MemberName)
      (hname : name.text = Naming.handlerText (Text.ofString injector.handlerWord) id number
        config.sourceId method.name.text) :
      Tells id (.conform i mixin method) (.name (.ok (some name)))

end Sharing

/-! ## What each demand leaves -/

/-- A registry that was asked for these classes has them numbered as they were first seen. -/
def Registry.HasSeen (r : Registry) (asked : List ClassName) : Prop := r.classes = asked.eraseDups

namespace Registry.HasSeen

variable {r : Registry} {asked : List ClassName}

/-- One more class is asked for. -/
theorem classId (h : r.HasSeen asked) (c : ClassName) :
    (r.classId c).2.HasSeen (asked ++ [c]) := by
  rw [HasSeen, classes_classId_eq, FirstSeen.eraseDups_concat, h]

/-- It is given its place among all classes. -/
theorem classId_eq (h : r.HasSeen asked) (c : ClassName) :
    (r.classId c).1 = (asked ++ [c]).eraseDups.idxOf c := by
  rw [← classId_classId, classId_eq_idxOf, h.classId c]

/-- To ask again changes nothing. -/
theorem again (h : r.HasSeen asked) {c : ClassName} (hc : c ∈ asked) :
    r.HasSeen (asked ++ [c]) := by
  rw [HasSeen, FirstSeen.eraseDups_concat, if_pos (List.mem_eraseDups.mpr hc), h]

/-- A call asks for its class, if it has any. -/
theorem call (h : r.HasSeen asked) (c : Call) : (r.call c).2.HasSeen (asked ++ c.class?.toList) := by
  cases c with
  | classNumber c => exact h.classId c
  | request q =>
      cases q with
      | letters c => exact h.classId c
      | digits name descriptor counts =>
          show r.classes = (asked ++ []).eraseDups
          rw [List.append_nil]
          exact h
      | handler source word target name descriptor isSurrogate => exact h.classId target

/-- So a registry that was new numbers the classes of all calls. -/
theorem after (calls : List Call) :
    (Runs.after Registry.call .empty calls).HasSeen (calls.filterMap Call.class?) := by
  induction calls using List.reverseRecOn with
  | nil => rfl
  | append_singleton calls c ih =>
      have hlast : [c].filterMap Call.class? = c.class?.toList := by
        cases hc : c.class? <;> simp [hc]
      rw [Runs.after_append, List.filterMap_append, hlast]
      exact ih.call c

end Registry.HasSeen

/-- The names that the allocator remembers have the number of its target in them. -/
def Allocator.RemembersNumber (a : Allocator) (asked : List ClassName) : Prop :=
  ∀ key name, a.conformed? key = some name → a.target ∈ asked ∧
    ∃ (injector : Injector) (config : MixinConfig) (number : UInt32),
      name.text = Naming.handlerText (Text.ofString injector.handlerWord)
        (asked.eraseDups.idxOf a.target) number config.sourceId key.name.text

namespace Allocator.RemembersNumber

variable {a b : Allocator} {asked : List ClassName}

/-- The numbers of classes that were seen stay. -/
theorem append (h : a.RemembersNumber asked) (more : List ClassName) :
    a.RemembersNumber (asked ++ more) := by
  intro key name hname
  obtain ⟨hmem, hnumber⟩ := h key name hname
  refine ⟨List.mem_append_left _ hmem, ?_⟩
  rw [List.eraseDups_append, List.idxOf_append_of_mem (List.mem_eraseDups.mpr hmem)]
  exact hnumber

theorem congr (h : a.RemembersNumber asked) (htarget : b.target = a.target)
    (hconformed : b.conformed = a.conformed) : b.RemembersNumber asked := by
  intro key name hname
  rw [conformed?, hconformed] at hname
  rw [htarget]
  exact h key name hname

end Allocator.RemembersNumber

namespace Sharing

variable {ι : Type} {targets : ι → ClassName} {asked : List ClassName} {s : Sharing ι}

/-- The classes that were asked for have their numbers, and allocators know no others. -/
structure IsNumbered (targets : ι → ClassName) (asked : List ClassName) (s : Sharing ι) :
    Prop where
  registry : s.registry.HasSeen asked
  target : ∀ i, (s.allocators i).target = targets i
  allocators : ∀ i, (s.allocators i).RemembersNumber asked

theorem isNumbered_new (targets : ι → ClassName) : (new targets).IsNumbered targets [] where
  registry := rfl
  target := fun _ => rfl
  allocators := fun _ _ _ hname => by cases hname

/-- The registry is asked for more classes, and no allocator changes. -/
theorem IsNumbered.ask (h : s.IsNumbered targets asked) {more : List ClassName} {r : Registry}
    (hr : r.HasSeen (asked ++ more)) :
    IsNumbered targets (asked ++ more) { s with registry := r } where
  registry := hr
  target := h.target
  allocators := fun i => (h.allocators i).append more

variable [DecidableEq ι]

/-- One allocator changes besides. -/
theorem IsNumbered.update (h : s.IsNumbered targets asked) {more : List ClassName} {r : Registry}
    (hr : r.HasSeen (asked ++ more)) {i : ι} {a : Allocator} (htarget : a.target = targets i)
    (ha : a.RemembersNumber (asked ++ more)) :
    IsNumbered targets (asked ++ more) ⟨r, Function.update s.allocators i a⟩ where
  registry := hr
  target := by
    intro j
    rcases eq_or_ne j i with rfl | hne
    · simpa using htarget
    · simpa [hne] using h.target j
  allocators := by
    intro j
    rcases eq_or_ne j i with rfl | hne
    · simpa using ha
    · simpa [hne] using (h.allocators j).append more

/-- A handler is named for the class of the allocator's target, now or earlier. -/
theorem IsNumbered.conform (h : s.IsNumbered targets asked) (i : ι) (mixin : Mixin)
    {method : MixinMethod} (hhandler : method.role.isHandler = true) :
    (s.serve (.conform i mixin method)).2.IsNumbered targets (asked ++ [targets i]) ∧
      Tells ((asked ++ [targets i]).eraseDups.idxOf (targets i)) (.conform i mixin method)
        (s.serve (.conform i mixin method)).1 := by
  have htarget := h.target i
  unfold serve
  dsimp only
  cases (s.allocators i).conforms s.registry mixin hhandler with
  | known name hknown houtcome hallocator hregistry =>
      have hremembered := (h.allocators i).append [targets i]
      obtain ⟨hmem, _⟩ := h.allocators i _ _ hknown
      rw [htarget] at hmem
      obtain ⟨_, injector, config, number, hname⟩ := hremembered _ _ hknown
      rw [htarget] at hname
      rw [houtcome, hallocator, hregistry]
      exact ⟨h.update (h.registry.again hmem) htarget hremembered,
        .conform i mixin method injector config number name hname⟩
  | named injector name hname houtcome hallocator hregistry =>
      obtain ⟨number, hnumber⟩ := s.registry.exists_handlerName_eq mixin.config.sourceId
        (Text.ofString injector.handlerWord) (s.allocators i).target method.name.text
        method.type.render method.isSurrogate
      rw [hnumber, htarget, h.registry.classId_eq] at hname
      have hseen : ((s.allocators i).conform s.registry mixin method).registry.HasSeen
          (asked ++ [targets i]) := by
        rw [Registry.HasSeen, hregistry, htarget, h.registry.classId]
      rw [houtcome, hallocator]
      refine ⟨h.update hseen htarget ?_, .conform i mixin method injector mixin.config number name hname⟩
      intro key other hother
      simp only [Allocator.conformed?, List.lookup_cons] at hother
      split at hother
      · next hkey =>
        cases hother
        rw [eq_of_beq hkey, htarget]
        exact ⟨by simp, injector, mixin.config, number, hname⟩
      · exact (h.allocators i).append [targets i] key other hother

/-- A method that is no handler is given no name. -/
theorem serve_conform (s : Sharing ι) (i : ι) (mixin : Mixin) {method : MixinMethod}
    (h : method.role.isHandler = false) :
    s.serve (.conform i mixin method) = (.name (.ok none), s) := by
  simp [serve, Allocator.conform_of_isHandler_eq_false _ _ _ h]

/-- Whatever is asked for, the classes asked for so far have their numbers. -/
theorem IsNumbered.serve (h : s.IsNumbered targets asked) (d : Demand ι) :
    (s.serve d).2.IsNumbered targets (asked ++ (d.class? targets).toList) := by
  cases d with
  | call c => exact h.ask (h.registry.call c)
  | handlerName i source word name descriptor isSurrogate =>
      refine h.ask ?_
      show (s.registry.classId (s.allocators i).target).2.HasSeen (asked ++ [targets i])
      rw [h.target i]
      exact h.registry.classId (targets i)
  | conform i mixin method =>
      cases hhandler : method.role.isHandler with
      | true => simpa [Demand.class?, hhandler] using (h.conform i mixin hhandler).1
      | false => simpa [Demand.class?, hhandler, serve_conform s i mixin hhandler] using h
  | uniqueMethod i source session name keepsStart =>
      exact h.update (a := ((s.allocators i).uniqueMethod source session name keepsStart).2)
        (by simpa [Demand.class?] using h.registry) (h.target i)
        (((h.allocators i).append []).congr rfl rfl)
  | uniqueField i source session name =>
      exact h.update (a := ((s.allocators i).uniqueField source session name).2)
        (by simpa [Demand.class?] using h.registry) (h.target i)
        (((h.allocators i).append []).congr rfl rfl)
  | reset i =>
      exact h.update (a := (s.allocators i).reset) (by simpa [Demand.class?] using h.registry)
        (h.target i) (((h.allocators i).append []).congr rfl rfl)

/-- A demand for a class is told its number. -/
theorem IsNumbered.tells (h : s.IsNumbered targets asked) {d : Demand ι} {c : ClassName}
    (hc : d.class? targets = some c) :
    Tells ((asked ++ [c]).eraseDups.idxOf c) d (s.serve d).1 := by
  rw [← h.registry.classId_eq]
  cases d with
  | call call =>
      cases call with
      | classNumber c' =>
          obtain rfl := Option.some.inj hc
          exact .number c'
      | request q =>
          cases q with
          | letters c' =>
              obtain rfl := Option.some.inj hc
              exact .letters c'
          | digits name descriptor counts => cases hc
          | handler source word target name descriptor isSurrogate =>
              obtain rfl := Option.some.inj hc
              exact .request source word target name descriptor isSurrogate _
  | handlerName i source word name descriptor isSurrogate =>
      obtain rfl := Option.some.inj hc
      rw [← h.target i]
      exact .handlerName i source word name descriptor isSurrogate _
  | conform i mixin method =>
      cases hhandler : method.role.isHandler with
      | true =>
          obtain rfl : targets i = c := by simpa [Demand.class?, hhandler] using hc
          rw [h.registry.classId_eq]
          exact (h.conform i mixin hhandler).2
      | false => simp [Demand.class?, hhandler] at hc
  | uniqueMethod i source session name keepsStart => cases hc
  | uniqueField i source session name => cases hc
  | reset i => cases hc

/-! ## Runs of demands -/

theorem isNumbered_after (targets : ι → ClassName) (demands : List (Demand ι)) :
    (Runs.after serve (new targets) demands).IsNumbered targets
      (demands.filterMap (Demand.class? targets)) := by
  induction demands using List.reverseRecOn with
  | nil => exact isNumbered_new targets
  | append_singleton demands d ih =>
      have hlast : [d].filterMap (Demand.class? targets) = (d.class? targets).toList := by
        cases hd : d.class? targets <;> simp [hd]
      rw [Runs.after_append, List.filterMap_append, hlast]
      exact ih.serve d

/-- A demand for a class is told the place of the class among all that are asked for, before
the demand or after it. -/
theorem exists_outputs_tells (targets : ι → ClassName) {demands : List (Demand ι)} {i : Nat}
    {d : Demand ι} {c : ClassName} (hi : demands[i]? = some d) (hc : d.class? targets = some c) :
    ∃ reply, (Runs.outputs serve (new targets) demands)[i]? = some reply ∧
      Tells ((demands.filterMap (Demand.class? targets)).eraseDups.idxOf c) d reply := by
  refine ⟨_, Runs.getElem?_outputs serve (new targets) hi, ?_⟩
  have hsplit : demands = demands.take i ++ d :: demands.drop (i + 1) :=
    Runs.eq_take_append_drop hi
  have hseen : demands.filterMap (Demand.class? targets)
      = ((demands.take i).filterMap (Demand.class? targets) ++ [c])
        ++ (demands.drop (i + 1)).filterMap (Demand.class? targets) := by
    conv_lhs => rw [hsplit]
    simp [hc]
  rw [hseen, List.eraseDups_append, List.idxOf_append_of_mem (by simp)]
  exact (isNumbered_after targets (demands.take i)).tells hc

/-- A new registry and any number of new allocators that share it are asked for anything, in
any order. Every demand for a class is told the same number of it, which is how many other
classes were asked for before the class was asked for first. Different classes have
different numbers, the numbers are those below the count of classes, the registry counts as
many classes as were asked for, and different classes have different letters. -/
theorem tells_of_demands (targets : ι → ClassName) (demands : List (Demand ι)) :
    let seen := demands.filterMap (Demand.class? targets)
    let number := fun c => (seen.takeWhile (· != c)).toFinset.card
    (∀ (i : Nat) d c, demands[i]? = some d → d.class? targets = some c →
      ∃ reply, (Runs.outputs serve (new targets) demands)[i]? = some reply ∧
        Tells (number c) d reply) ∧
    (∀ c ∈ seen, ∀ c' ∈ seen, number c = number c' → c = c') ∧
    (∀ n, n < seen.toFinset.card ↔ ∃ c ∈ seen, number c = n) ∧
    (Runs.after serve (new targets) demands).registry.classCount = seen.toFinset.card ∧
    ∀ c ∈ seen, ∀ c' ∈ seen,
      Naming.classLetters (number c) = Naming.classLetters (number c') → c = c' := by
  intro seen number
  have hnumber : ∀ c ∈ seen, number c = seen.eraseDups.idxOf c := fun c hc =>
    (FirstSeen.idxOf_eraseDups hc).symm
  have hinj : ∀ c ∈ seen, ∀ c' ∈ seen, number c = number c' → c = c' := by
    intro c hc c' hc' h
    rw [hnumber c hc, hnumber c' hc'] at h
    exact (List.idxOf_inj (List.mem_eraseDups.mpr hc)).mp h
  refine ⟨?_, hinj, ?_, ?_, fun c hc c' hc' h => hinj c hc c' hc' (Naming.classLetters_injective h)⟩
  · intro i d c hi hc
    have hmem : c ∈ seen := List.mem_filterMap.mpr ⟨d, List.mem_of_getElem? hi, hc⟩
    rw [hnumber c hmem]
    exact exists_outputs_tells targets hi hc
  · intro n
    rw [← FirstSeen.length_eraseDups]
    constructor
    · intro hn
      have hmem : seen.eraseDups[n] ∈ seen := List.mem_eraseDups.mp (List.getElem_mem hn)
      refine ⟨seen.eraseDups[n], hmem, ?_⟩
      rw [hnumber _ hmem, (FirstSeen.nodup_eraseDups seen).idxOf_getElem]
    · rintro ⟨c, hc, rfl⟩
      rw [hnumber c hc]
      exact List.idxOf_lt_length_iff.mpr (List.mem_eraseDups.mpr hc)
  · rw [Registry.classCount, (isNumbered_after targets demands).registry,
      FirstSeen.length_eraseDups]

/-- A handler of a mixin that is merged into several classes. -/
def sharedHandler : MixinMethod where
  name := .literal "onHurt"
  type := { parameters := [], result := none }
  flags := { isPrivate := true }
  role := .handler .inject

/-- The mixin that it belongs to. -/
def sharedMixin : Mixin where
  name := .literal "mod/mixin/HurtMixin"
  config := { name := "mod", source := some (Text.ofString "mod") }
  methods := [sharedHandler]

/-- Two allocators name the handler, and one of them once more; somebody else asks for a class
in between. The class of the second allocator is the third one. -/
theorem outputs_shared :
    let targets : Bool → ClassName := fun i => if i then .literal "game/Player" else
      .literal "game/Zombie"
    (Runs.outputs serve (new targets) [.conform true sharedMixin sharedHandler,
        .call (.classNumber (.literal "game/Block")), .conform false sharedMixin sharedHandler,
        .conform true sharedMixin sharedHandler,
        .call (.request (.letters (.literal "game/Zombie")))])[4]?
      = some (.answer (.text (Text.ofString "zzc"))) := by
  intro targets
  obtain ⟨htells, _⟩ := tells_of_demands targets [.conform true sharedMixin sharedHandler,
    .call (.classNumber (.literal "game/Block")), .conform false sharedMixin sharedHandler,
    .conform true sharedMixin sharedHandler,
    .call (.request (.letters (.literal "game/Zombie")))]
  obtain ⟨reply, hreply, hnumber⟩ := htells 4 _ (.literal "game/Zombie") rfl rfl
  rw [hreply]
  cases hnumber with
  | letters => decide +kernel

end Sharing

end ClassGraft
