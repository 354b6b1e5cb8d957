import Mathlib.Data.List.Induction
import ClassGraft.Proofs.Naming.Fragments
import ClassGraft.Proofs.Naming.Requests

/-!
# Occurrence numbers

One registry serves the calls of any number of allocators, one after the other, in
whatever order they come. What a call for a key is told depends on the calls for that key
alone: the first one is told zero, and every other one how many calls for the key after
the first have counted so far. Calls for other keys and for classes do not matter.

`Registry.latest?_after` says this of the state, for every history of calls. The main
statement says it of the answers, and that calls of which all count share out the numbers
from zero on, each number to one call.
-/

namespace ClassGraft

/-! ## Calls -/

/-- A call of a registry: for the number of a class, or for a piece of a name. -/
inductive Call where
  | classNumber (c : ClassName)
  | request (request : Request)

/-- What a registry answers. -/
inductive Answer where
  | number (n : Nat)
  | text (t : Text)
  deriving DecidableEq

/-- The key whose occurrences a request is about; requests for classes have none. -/
def Request.key? : Request → Option Text
  | letters _ => none
  | digits name descriptor _ => some (Registry.occurrenceKey name descriptor)
  | handler source _ _ name descriptor _ =>
    some (Registry.occurrenceKey (Naming.stripSource name (Naming.sourceNamespace source))
      descriptor)

/-- Is the request for an occurrence of its own? Surrogates share the latest one. -/
def Request.counts : Request → Bool
  | letters _ => false
  | digits _ _ counts => counts
  | handler _ _ _ _ _ isSurrogate => !isSurrogate

namespace Call

/-- The key that the call is about. -/
def key? : Call → Option Text
  | classNumber _ => none
  | request q => q.key?

/-- Is the call for an occurrence of its own? -/
def counts : Call → Bool
  | classNumber _ => false
  | request q => q.counts

/-- Is the call about this key? -/
def asksFor (key : Text) (call : Call) : Bool := call.key? == some key

theorem asksFor_iff {key : Text} {call : Call} :
    call.asksFor key = true ↔ call.key? = some key := beq_iff_eq

/-- The number that the last call for a key is told: how many calls for the key after the
first one count. -/
def latestNumber (key : Text) (history : List Call) : Nat :=
  (history.filter (asksFor key)).tail.countP counts

/-- A further call for the key adds one if it counts and is not the first. -/
theorem latestNumber_snoc (key : Text) (history : List Call) (call : Call) :
    latestNumber key (history ++ [call])
      = latestNumber key history +
        if history.any (asksFor key) && call.asksFor key && call.counts then 1 else 0 := by
  unfold latestNumber
  rw [List.filter_append]
  by_cases hcall : call.asksFor key = true
  · by_cases hany : history.any (asksFor key) = true
    · have hne : history.filter (asksFor key) ≠ [] := by
        simpa [List.filter_eq_nil_iff] using hany
      rw [List.tail_append_of_ne_nil hne, List.countP_append]
      simp [hcall, hany, List.countP_singleton]
    · have hnil : history.filter (asksFor key) = [] := by
        simpa [List.filter_eq_nil_iff] using hany
      simp [hnil, hcall, hany]
  · simp [hcall]

/-- The number is below that of the calls for the key. -/
theorem latestNumber_lt {key : Text} {history : List Call}
    (h : history.any (asksFor key) = true) :
    latestNumber key history < history.countP (asksFor key) := by
  have hne : history.filter (asksFor key) ≠ [] := by
    simpa [List.filter_eq_nil_iff] using h
  have hlength : (history.filter (asksFor key)).tail.length
      < (history.filter (asksFor key)).length := by
    rw [List.length_tail]
    exact Nat.sub_lt (List.length_pos_of_ne_nil hne) Nat.one_pos
  rw [List.countP_eq_length_filter]
  exact lt_of_le_of_lt List.countP_le_length hlength

/-- Where all calls for the key count, it is the number of those before the last one. -/
theorem latestNumber_of_counts {key : Text} {history : List Call} {call : Call}
    (hcounts : ∀ c ∈ history ++ [call], c.asksFor key = true → c.counts = true)
    (hcall : call.asksFor key = true) :
    latestNumber key (history ++ [call]) = history.countP (asksFor key) := by
  have hall : ∀ c ∈ ((history ++ [call]).filter (asksFor key)).tail, c.counts = true := by
    intro c hc
    obtain ⟨hmem, hkey⟩ := List.mem_filter.mp (List.mem_of_mem_tail hc)
    exact hcounts c hmem hkey
  rw [latestNumber, List.countP_eq_length.mpr hall, List.length_tail,
    ← List.countP_eq_length_filter, List.countP_append]
  simp [hcall]

end Call

namespace Registry

/-- What a call is answered, and the registry that is left. -/
def call (r : Registry) : Call → Answer × Registry
  | .classNumber c => (.number (r.classId c).1, (r.classId c).2)
  | .request q => (.text (r.serve q).1, (r.serve q).2)

/-- The answer to a call with a given occurrence number in it. -/
def answerNumbered (r : Registry) (number : Nat) : Call → Answer
  | .classNumber c => .number (r.classId c).1
  | .request (.letters c) => .text (Naming.classLetters (r.classId c).1)
  | .request (.digits _ _ _) => .text (Text.padLeft 3 '0' (Text.hex number))
  | .request (.handler source word target name _ _) =>
    .text (word ++ '$' :: Naming.classLetters (r.classId target).1
      ++ Text.padLeft 3 '0' (Text.hex number)
      ++ '$' :: Naming.sourceMark (Naming.sourceNamespace source)
      ++ Naming.stripSource name (Naming.sourceNamespace source))

/-! ## One call -/

/-- The number of an occurrence depends on the latest one of its key only. -/
theorem occurrence_congr {r r' : Registry} {key : Text} (h : r.latest? key = r'.latest? key)
    (counts : Bool) : (r.occurrence key counts).1 = (r'.occurrence key counts).1 := by
  simp only [occurrence, h]

/-- A call changes the latest number of its own key, and of no other. -/
theorem latest?_call (r : Registry) (key : Text) (c : Call) :
    (r.call c).2.latest? key
      = if c.asksFor key then some (r.occurrence key c.counts).1 else r.latest? key := by
  have hoccurrence : ∀ (s : Registry) (other : Text) (counts : Bool),
      s.latest? key = r.latest? key → (s.occurrence other counts).2.latest? key
        = if some other == some key then some (r.occurrence key counts).1 else r.latest? key := by
    intro s other counts hs
    rw [latest?_occurrence]
    by_cases hother : key = other
    · subst hother
      simp [occurrence_congr hs]
    · have hne : (some other == some key) = false := by simpa using fun heq => hother heq.symm
      simp [hother, hne, hs]
  cases c with
  | classNumber c => exact latest?_classId r c key
  | request q =>
      cases q with
      | letters c => exact latest?_classId r c key
      | digits name descriptor counts => exact hoccurrence r _ counts rfl
      | handler source word target name descriptor isSurrogate =>
          exact hoccurrence (r.classId target).2 _ _ (latest?_classId r target key)

/-- A call for a key is told the number that the key then has. -/
theorem call_eq_of_latest? {r : Registry} {key : Text} {c : Call} {n : UInt32}
    (hkey : c.key? = some key) (h : (r.call c).2.latest? key = some n) :
    (r.call c).1 = r.answerNumbered n.toNat c := by
  rw [latest?_call, if_pos (Call.asksFor_iff.mpr hkey)] at h
  obtain rfl := Option.some.inj h
  cases c with
  | classNumber c => cases hkey
  | request q =>
      cases q with
      | letters c => cases hkey
      | digits name descriptor counts =>
          obtain rfl := Option.some.inj hkey
          rfl
      | handler source word target name descriptor isSurrogate =>
          obtain rfl := Option.some.inj hkey
          have hclass := occurrence_congr (latest?_classId r target
            (occurrenceKey (Naming.stripSource name (Naming.sourceNamespace source)) descriptor))
            (!isSurrogate)
          simp only [call, serve, handlerName, answerNumbered, Naming.occurrenceDigits, hclass]
          rfl

/-- The number can be read off the answer. -/
theorem answerNumbered_inj {r : Registry} {key : Text} {c : Call} {m n : Nat}
    (hkey : c.key? = some key) (h : r.answerNumbered m c = r.answerNumbered n c) : m = n := by
  cases c with
  | classNumber c => cases hkey
  | request q =>
      cases q with
      | letters c => cases hkey
      | digits name descriptor counts => exact Text.padLeft_hex_injective (Answer.text.inj h)
      | handler source word target name descriptor isSurrogate =>
          simp only [answerNumbered, Answer.text.injEq, List.append_assoc,
            List.append_cancel_left_eq, List.cons_append, List.cons.injEq, true_and] at h
          exact Text.padLeft_hex_injective (List.append_cancel_right h)

/-! ## Any calls -/

/-- The latest number of a key after any calls. -/
theorem latest?_after {r : Registry} {key : Text} (hnew : r.latest? key = none)
    (history : List Call) :
    (Runs.after call r history).latest? key
      = if history.any (Call.asksFor key) then
          some (UInt32.ofNat (Call.latestNumber key history)) else none := by
  -- The last call changes the state that the calls before it leave, so it is split off.
  induction history using List.reverseRecOn with
  | nil => exact hnew
  | append_singleton history c ih =>
      rw [Runs.after_append, Call.latestNumber_snoc]
      show ((Runs.after call r history).call c).2.latest? key = _
      rw [latest?_call, occurrence, ih]
      by_cases hc : c.asksFor key = true
      · by_cases hany : history.any (Call.asksFor key) = true
        · cases hcounts : c.counts with
          | true => simp [hc, hany, UInt32.ofNat_add]
          | false => simp [hc, hany]
        · -- The first call for the key.
          have hnone : history.filter (Call.asksFor key) = [] := by
            simpa [List.filter_eq_nil_iff] using hany
          simp [hc, hany, Call.latestNumber, hnone]
      · simp [hc]

/-- Among calls that start at the registry, the call at a position is about the key, and its
answer has the number in it. -/
def Gives (r : Registry) (calls : List Call) (key : Text) (i number : Nat) : Prop :=
  ∃ c, calls[i]? = some c ∧ c.key? = some key ∧
    (Runs.outputs call r calls)[i]? = some ((Runs.after call r (calls.take i)).answerNumbered number c)

/-- The calls for a key are told how many calls for it after the first have counted by
then. -/
theorem gives_iff {r : Registry} {calls : List Call} {key : Text} (hnew : r.latest? key = none)
    (hfew : calls.countP (Call.asksFor key) < UInt32.size) {i : Nat} {c : Call}
    (hi : calls[i]? = some c) (hkey : c.key? = some key) (number : Nat) :
    r.Gives calls key i number ↔ number = Call.latestNumber key (calls.take (i + 1)) := by
  have htake : calls.take (i + 1) = calls.take i ++ [c] := by
    rw [List.take_add_one, hi]
    rfl
  have hany : (calls.take (i + 1)).any (Call.asksFor key) = true := by
    rw [htake]
    simp [Call.asksFor_iff.mpr hkey]
  have hlt : Call.latestNumber key (calls.take (i + 1)) < UInt32.size :=
    calc Call.latestNumber key (calls.take (i + 1))
      _ < (calls.take (i + 1)).countP (Call.asksFor key) := Call.latestNumber_lt hany
      _ ≤ calls.countP (Call.asksFor key) := (List.take_sublist _ _).countP_le
      _ < UInt32.size := hfew
  have hlatest : ((Runs.after call r (calls.take i)).call c).2.latest? key
      = some (UInt32.ofNat (Call.latestNumber key (calls.take (i + 1)))) := by
    have hafter := latest?_after hnew (calls.take (i + 1))
    rw [if_pos hany, htake, Runs.after_append] at hafter
    rw [htake]
    exact hafter
  -- The counter has not wrapped round, so its value is the number itself.
  have hanswer := call_eq_of_latest? hkey hlatest
  rw [UInt32.toNat_ofNat_of_lt' hlt] at hanswer
  have houtput := Runs.getElem?_outputs call r hi
  rw [hanswer] at houtput
  constructor
  · rintro ⟨c', hc', _, hgiven⟩
    obtain rfl : c = c' := Option.some.inj (hi.symm.trans hc')
    exact (answerNumbered_inj hkey (Option.some.inj (houtput.symm.trans hgiven))).symm
  · rintro rfl
    exact ⟨c, hi, hkey, houtput⟩

/-! ## Sharing out the numbers -/

section Counting

variable {α : Type} {p : α → Bool} {xs : List α}

/-- The count of what lies before a position goes up where there is something to count. -/
theorem countP_take_lt {i j : Nat} {x : α} (hij : i < j) (hi : xs[i]? = some x)
    (hx : p x = true) : (xs.take i).countP p < (xs.take j).countP p := by
  have hstep : (xs.take (i + 1)).countP p = (xs.take i).countP p + 1 := by
    rw [List.take_add_one, hi, List.countP_append]
    simp [hx]
  have hsub : (xs.take (i + 1)).Sublist (xs.take j) :=
    (List.take_prefix_take_left (by omega)).sublist
  have hle := hsub.countP_le (p := p)
  omega

/-- It takes every value below the whole count at such a position. -/
theorem exists_countP_take {n : Nat} (hn : n < xs.countP p) :
    ∃ i x, xs[i]? = some x ∧ p x = true ∧ (xs.take i).countP p = n := by
  induction xs generalizing n with
  | nil => simp at hn
  | cons x xs ih =>
      rw [List.countP_cons] at hn
      -- Zero is taken at the first element if that counts, any other value in the rest.
      by_cases hfirst : p x = true ∧ n = 0
      · exact ⟨0, x, rfl, hfirst.1, hfirst.2.symm⟩
      · obtain ⟨i, y, hi, hy, hcount⟩ := ih (n := n - if p x then 1 else 0) (by grind)
        refine ⟨i + 1, y, hi, hy, ?_⟩
        rw [List.take_succ_cons, List.countP_cons, hcount]
        grind

end Counting

/-- Where all calls for the key count, each is told how many came before it. -/
theorem gives_iff_of_counts {r : Registry} {calls : List Call} {key : Text}
    (hnew : r.latest? key = none) (hfew : calls.countP (Call.asksFor key) < UInt32.size)
    (hcounts : ∀ c ∈ calls, c.asksFor key = true → c.counts = true) (i number : Nat) :
    r.Gives calls key i number ↔
      (∃ c, calls[i]? = some c ∧ c.asksFor key = true) ∧
        (calls.take i).countP (Call.asksFor key) = number := by
  have hat : ∀ c, calls[i]? = some c → c.asksFor key = true →
      (r.Gives calls key i number ↔ (calls.take i).countP (Call.asksFor key) = number) := by
    intro c hi hkey
    have htake : calls.take (i + 1) = calls.take i ++ [c] := by
      rw [List.take_add_one, hi]
      rfl
    have hbefore : ∀ d ∈ calls.take i ++ [c], d.asksFor key = true → d.counts = true := by
      rw [← htake]
      exact fun d hd => hcounts d (List.mem_of_mem_take hd)
    rw [gives_iff hnew hfew hi (Call.asksFor_iff.mp hkey), htake,
      Call.latestNumber_of_counts hbefore hkey, eq_comm]
  constructor
  · intro hgives
    have ⟨c, hi, hkey, _⟩ := hgives
    have hkey := Call.asksFor_iff.mpr hkey
    exact ⟨⟨c, hi, hkey⟩, (hat c hi hkey).mp hgives⟩
  · rintro ⟨⟨c, hi, hkey⟩, hcount⟩
    exact (hat c hi hkey).mpr hcount

/-- Any number of callers ask a registry for occurrences of a key that is new to it, fewer
than 2^32 times, and the registry serves their calls in some order. Then a call for the key
is told how many calls for it after the first count, up to that call: the first is told
zero. No other call changes what the key has. Where all calls for the key count, each of
the numbers below their number is told to exactly one of them, and no other number is. -/
theorem gives_of_callers {r : Registry} {key : Text} (hnew : r.latest? key = none)
    {callers : List (List Call)} {calls : List Call} (hserved : calls.Perm callers.flatten)
    (hfew : callers.flatten.countP (Call.asksFor key) < UInt32.size) :
    (∀ i c, calls[i]? = some c → c.key? = some key → ∀ number,
      r.Gives calls key i number ↔ number = Call.latestNumber key (calls.take (i + 1))) ∧
    (∀ (s : Registry) c, c.key? ≠ some key → (s.call c).2.latest? key = s.latest? key) ∧
    ((∀ c ∈ callers.flatten, c.key? = some key → c.counts = true) →
      (∀ number, number < callers.flatten.countP (Call.asksFor key) →
        ∃! i, r.Gives calls key i number) ∧
      ∀ i number, r.Gives calls key i number →
        number < callers.flatten.countP (Call.asksFor key)) := by
  rw [← hserved.countP_eq] at hfew ⊢
  refine ⟨fun i c hi hkey number => gives_iff hnew hfew hi hkey number, ?_, ?_⟩
  · intro s c hkey
    rw [latest?_call, if_neg fun h => hkey (Call.asksFor_iff.mp h)]
  · intro hall
    have hcounts : ∀ c ∈ calls, c.asksFor key = true → c.counts = true := fun c hc hkey =>
      hall c (hserved.mem_iff.mp hc) (Call.asksFor_iff.mp hkey)
    have hgives := gives_iff_of_counts hnew hfew hcounts
    constructor
    · intro number hnumber
      simp only [hgives]
      obtain ⟨i, c, hi, hkey, hcount⟩ := exists_countP_take hnumber
      refine ⟨i, ⟨⟨c, hi, hkey⟩, hcount⟩, ?_⟩
      rintro j ⟨⟨d, hj, hkey'⟩, hcount'⟩
      -- Of two calls for the key the later one is told more.
      rcases Nat.lt_trichotomy i j with hij | rfl | hji
      · have hlt := countP_take_lt hij hi hkey
        omega
      · rfl
      · have hlt := countP_take_lt hji hj hkey'
        omega
    · intro i number h
      obtain ⟨⟨c, hi, hkey⟩, rfl⟩ := (hgives i number).mp h
      obtain ⟨hlength, _⟩ := List.getElem?_eq_some_iff.mp hi
      simpa using countP_take_lt hlength hi hkey

/-- A surrogate of a handler that comes before the handler itself, and a third caller who
asks for a class in between: the surrogate is told zero and the handler one. -/
theorem gives_of_surrogate_first :
    let key := Text.ofString "onJump(Z)V"
    let handler := fun isSurrogate => Call.request (.handler none (Text.ofString "handler")
      (.literal "game/Player") (Text.ofString "onJump") (Text.ofString "(Z)V") isSurrogate)
    let calls := [handler true, .classNumber (.literal "game/Zombie"), handler false]
    Registry.empty.Gives calls key 0 0 ∧ Registry.empty.Gives calls key 2 1 := by
  intro key handler calls
  have hserved : calls.Perm [[handler true], [handler false],
      [.classNumber (.literal "game/Zombie")]].flatten :=
    (List.Perm.swap _ _ []).cons _
  obtain ⟨hnumbers, _⟩ := @gives_of_callers .empty key rfl _ _ hserved (by decide)
  exact ⟨(hnumbers 0 _ rfl (by decide) 0).mpr (by decide),
    (hnumbers 2 _ rfl (by decide) 1).mpr (by decide)⟩

end Registry

end ClassGraft
