import Mathlib.Tactic.Tauto
import ClassGraft.Descriptor.Basic
import ClassGraft.Proofs.Naming.Fragments
import ClassGraft.Proofs.Naming.Requests

/-!
# When two handlers get one name

The name of a handler spells out its injector, the number of its class, the
number of its occurrence and its body, and these can be read off the name again.
In one target the first two of them say nothing about the handler, so the
occurrence number has to tell handlers with one body apart. It counts the
occurrences of a key, and the key leaves the source id out. The body does not:
a handler without a source id may have in its own name what another one has from
its source id. Then the bodies are the same but the keys are not, and the two
numbers have nothing to do with each other.
-/

namespace ClassGraft

/-- A request for the name of a handler, with the values of a mixin. Surrogates
are left out: they share the number of another handler on purpose. -/
structure HandlerCall where
  injector : Injector
  /-- The configuration whose source id goes into the name. -/
  config : MixinConfig
  target : ClassName
  name : MemberName
  type : MethodType ClassName

namespace HandlerCall

/-- The source id as it stands in the name. -/
def space (c : HandlerCall) : Text := Naming.sourceNamespace c.config.sourceId

/-- The member name as it stands in the name. -/
def kept (c : HandlerCall) : Text := Naming.stripSource c.name.text c.space

/-- The key whose occurrences are counted. -/
def key (c : HandlerCall) : Text := Registry.occurrenceKey c.kept c.type.render

/-- What follows the numbers in the name. -/
def body (c : HandlerCall) : Text := Naming.sourceMark c.space ++ c.kept

/-- The request as the registry gets it. -/
def request (c : HandlerCall) : Request :=
  .handler c.config.sourceId (Text.ofString c.injector.handlerWord) c.target c.name.text
    c.type.render false

/-- Without a source id, the handler is called what another one is called with its
source id in front. -/
def Mimics (c d : HandlerCall) : Prop :=
  c.space = [] ∧ d.space ≠ [] ∧ c.name.text = d.space ++ '$' :: d.kept

instance (c d : HandlerCall) : Decidable (c.Mimics d) :=
  inferInstanceAs (Decidable (_ ∧ _ ∧ _))

/-! ## Bodies -/

theorem isWord_space (c : HandlerCall) : Naming.IsWord c.space :=
  Naming.isWord_sourceNamespace c.config

theorem body_of_space_eq_nil {c : HandlerCall} (h : c.space = []) : c.body = c.name.text := by
  simp [body, kept, h, Naming.sourceMark]

theorem body_of_space_ne_nil {c : HandlerCall} (h : c.space ≠ []) :
    c.body = c.space ++ '$' :: c.kept := by
  simp [body, h, Naming.sourceMark]

/-- Bodies are the same for the same parts, or where a name mimics a source id. -/
theorem body_eq_iff (c d : HandlerCall) :
    c.body = d.body ↔ (c.space = d.space ∧ c.kept = d.kept) ∨ c.Mimics d ∨ d.Mimics c := by
  by_cases hc : c.space = []
  · by_cases hd : d.space = []
    · rw [body_of_space_eq_nil hc, body_of_space_eq_nil hd]
      simp [Mimics, kept, hc, hd]
    · rw [body_of_space_eq_nil hc, body_of_space_ne_nil hd]
      have hne : c.space ≠ d.space := fun heq => hd (heq ▸ hc)
      simp [Mimics, hc, hd, Ne.symm hd]
  · by_cases hd : d.space = []
    · rw [body_of_space_ne_nil hc, body_of_space_eq_nil hd]
      simp [Mimics, hc, hd, eq_comm]
    · rw [body_of_space_ne_nil hc, body_of_space_ne_nil hd,
        c.isWord_space.append_dollar_inj d.isWord_space]
      simp [Mimics, hc, hd]

end HandlerCall

namespace Registry

/-! ## Names -/

/-- The parts of a handler name. -/
theorem serve_request_eq (r : Registry) (c : HandlerCall) :
    (r.serve c.request).1
      = Text.ofString c.injector.handlerWord ++ '$' ::
        (Naming.classLetters (r.classId c.target).1
          ++ Naming.occurrenceDigits (r.nextNumber c.key) ++ '$' :: c.body) := by
  have hnumber : ((r.classId c.target).2.occurrence c.key true).1 = r.nextNumber c.key := by
    simp only [nextNumber, occurrence, latest?_classId]
  rw [← hnumber]
  simp [serve, HandlerCall.request, handlerName, HandlerCall.body, HandlerCall.key,
    HandlerCall.kept, HandlerCall.space]

/-- The parts can be read off the name. -/
theorem serve_request_eq_iff {r r' : Registry} {c d : HandlerCall}
    (hclass : (r.classId c.target).1 = (r'.classId d.target).1) :
    (r.serve c.request).1 = (r'.serve d.request).1 ↔
      c.injector = d.injector ∧ r.nextNumber c.key = r'.nextNumber d.key ∧ c.body = d.body := by
  have hnumbered : ∀ (s : Registry) (e : HandlerCall), Naming.IsWord
      (Naming.classLetters (s.classId e.target).1
        ++ Naming.occurrenceDigits (s.nextNumber e.key)) := fun _ _ =>
    (Naming.isWord_classLetters _).append (Naming.isWord_occurrenceDigits _)
  rw [serve_request_eq, serve_request_eq,
    (Naming.isWord_handlerWord _).append_dollar_inj (Naming.isWord_handlerWord _),
    (hnumbered r c).append_dollar_inj (hnumbered r' d), hclass, List.append_cancel_left_eq]
  constructor
  · rintro ⟨hword, hdigits, hbody⟩
    exact ⟨Injector.handlerWord_injective (String.toList_injective hword),
      Naming.occurrenceDigits_injective hdigits, hbody⟩
  · rintro ⟨hword, hnumber, hbody⟩
    exact ⟨by rw [hword], by rw [hnumber], hbody⟩

/-- The class of a handler keeps its number. -/
theorem classId_run_serve_request (r : Registry) (c : HandlerCall) (later : List Request) :
    (((r.serve c.request).2.run later).classId c.target).1 = (r.classId c.target).1 := by
  have hclasses : (r.serve c.request).2.classes = (r.classId c.target).2.classes := rfl
  have hmem : c.target ∈ (r.serve c.request).2.classes := by
    rw [hclasses]
    exact (classes_classId r c.target).1
  rw [classId_of_isPrefix hmem (isPrefix_classes_run _ later), classId_eq_idxOf, hclasses,
    ← classId_eq_idxOf, classId_classId]

/-! ## Numbers -/

/-- The number that a handler is given is the latest of its key. -/
theorem latest?_serve_request (r : Registry) (c : HandlerCall) :
    (r.serve c.request).2.latest? c.key = some (r.nextNumber c.key) := by
  have hnumber : ((r.classId c.target).2.occurrence c.key true).1 = r.nextNumber c.key := by
    simp only [nextNumber, occurrence, latest?_classId]
  rw [← hnumber]
  exact (latest?_occurrence _ _ _ _).trans (if_pos rfl)

/-- Two handlers of one key have the same number only where the numbers between
them went round. -/
theorem nextNumber_eq_iff (r : Registry) (c : HandlerCall) (between : List Request) :
    r.nextNumber c.key = ((r.serve c.request).2.run between).nextNumber c.key ↔
      UInt32.size ∣ between.countP (·.countsFor c.key) + 1 :=
  nextNumber_run_eq_iff (latest?_serve_request r c) between

/-! ## Handlers of one target -/

/-- The registry before a later request of a run, from the one before an earlier
request. -/
theorem run_take_of_lt (r : Registry) {requests : List Request} {i j : Nat} {request : Request}
    (hij : i < j) (hi : requests[i]? = some request) :
    r.run (requests.take j)
      = ((r.run (requests.take i)).serve request).2.run ((requests.take j).drop (i + 1)) :=
  Runs.after_take_of_lt serve r hij hi

/-- In every run, two handlers of one target and one type get the same name in
exactly two cases. Either they agree in every part of their names and the numbers
of their key went round between them, which takes 2^32 occurrences; or one of
them mimics the source id of the other and the numbers of their two keys happen
to be the same. -/
theorem getElem?_answers_eq_iff (r : Registry) {requests : List Request} {i j : Nat}
    {c d : HandlerCall} (hij : i < j) (hi : requests[i]? = some c.request)
    (hj : requests[j]? = some d.request) (htarget : c.target = d.target)
    (htype : c.type.render = d.type.render) :
    (r.answers requests)[i]? = (r.answers requests)[j]? ↔
      c.injector = d.injector ∧
        ((c.space = d.space ∧ c.kept = d.kept ∧
            UInt32.size ∣ ((requests.take j).drop (i + 1)).countP (·.countsFor c.key) + 1) ∨
          ((c.Mimics d ∨ d.Mimics c) ∧
            (r.run (requests.take i)).nextNumber c.key
              = (r.run (requests.take j)).nextNumber d.key)) := by
  have hlater := run_take_of_lt r hij hi
  have hclass : ((r.run (requests.take i)).classId c.target).1
      = ((r.run (requests.take j)).classId d.target).1 := by
    rw [hlater, ← htarget, classId_run_serve_request]
  rw [getElem?_answers r hi, getElem?_answers r hj, Option.some_inj,
    serve_request_eq_iff hclass, HandlerCall.body_eq_iff]
  -- Where the parts agree, so do the keys, and the numbers are those of one key.
  have hsame : c.kept = d.kept → ((r.run (requests.take i)).nextNumber c.key
      = (r.run (requests.take j)).nextNumber d.key ↔
        UInt32.size ∣ ((requests.take j).drop (i + 1)).countP (·.countsFor c.key) + 1) := by
    intro hkept
    have hkey : c.key = d.key := by rw [HandlerCall.key, HandlerCall.key, hkept, htype]
    rw [hlater, ← hkey, nextNumber_eq_iff]
  tauto

/-- A handler whose author wrote a source id and a dollar sign in front of its name,
in a configuration without a source id. -/
def mimicking : HandlerCall where
  injector := .inject
  config := { name := "plain" }
  target := .literal "a/T"
  name := .literal "mod$foo"
  type := { parameters := [], result := none }

/-- The handler that has that source id from its configuration. -/
def mimicked : HandlerCall :=
  { mimicking with
    config := { name := "mod", source := some (Text.ofString "mod") }
    name := .literal "foo" }

/-- The two handlers get one name on a fresh registry. -/
theorem answers_mimicking_mimicked :
    mimicking.target = mimicked.target ∧ mimicking.type = mimicked.type ∧
      Registry.empty.answers [mimicking.request, mimicked.request]
        = [Text.ofString "handler$zza000$mod$foo", Text.ofString "handler$zza000$mod$foo"] := by
  refine ⟨rfl, rfl, ?_⟩
  decide +kernel

/-- The two handlers as a run of two requests. -/
theorem getElem?_answers_mimicking_eq_iff :
    (Registry.empty.answers [mimicking.request, mimicked.request])[0]?
        = (Registry.empty.answers [mimicking.request, mimicked.request])[1]? ↔
      mimicking.injector = mimicked.injector ∧
        ((mimicking.space = mimicked.space ∧ mimicking.kept = mimicked.kept ∧
            UInt32.size ∣ (([mimicking.request, mimicked.request].take 1).drop 1).countP
              (·.countsFor mimicking.key) + 1) ∨
          ((mimicking.Mimics mimicked ∨ mimicked.Mimics mimicking) ∧
            (Registry.empty.run ([mimicking.request, mimicked.request].take 0)).nextNumber
                mimicking.key
              = (Registry.empty.run ([mimicking.request, mimicked.request].take 1)).nextNumber
                mimicked.key)) :=
  getElem?_answers_eq_iff .empty (by decide) rfl rfl rfl rfl

end Registry

end ClassGraft
