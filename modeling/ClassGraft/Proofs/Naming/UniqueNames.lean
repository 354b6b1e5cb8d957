import ClassGraft.Proofs.Naming.ClassNumbers

/-!
# Names of unique members

A unique member is named by everything that is known of it, with the number of a counter at
the end. The allocator has two counters, one for methods and one for fields, and nothing but
a reset sets them back. What stands in front of the number may be any text, with dollar signs
in it, and methods have two layouts; but a number holds no dollar sign, so the last one in a
name is where the number starts.

The first statement of the last section says what every unique name is, in whatever run of
demands it was asked for. From it follows that the names of one kind are all different,
until a counter has gone through all of its values.
-/

namespace ClassGraft

/-- Members that get unique names. -/
inductive UniqueKind where
  | method
  | field
  deriving DecidableEq

/-- The number of the next unique member. -/
def Allocator.next (a : Allocator) : UniqueKind → UInt32
  | .method => a.nextMethod
  | .field => a.nextField

/-! ## What allocators do -/

namespace Allocator

open Naming (EndsIn)

/-- Both layouts of methods have the number at the end. -/
theorem endsIn_uniqueMethodText (source : Option Text) (session name : Text) (keepsStart : Bool)
    (n : UInt32) : EndsIn (uniqueMethodText source session name keepsStart n) n := by
  cases keepsStart <;> exact ⟨_, rfl⟩

theorem endsIn_uniqueFieldText (source : Option Text) (session name : Text) (n : UInt32) :
    EndsIn (uniqueFieldText source session name n) n := ⟨_, rfl⟩

/-- Naming a handler leaves the counters alone. -/
theorem next_conform (a : Allocator) (r : Registry) (mixin : Mixin) (method : MixinMethod)
    (kind : UniqueKind) : (a.conform r mixin method).allocator.next kind = a.next kind := by
  obtain ⟨hmethod, hfield⟩ := a.counters_conform r mixin method
  cases kind with
  | method => exact hmethod
  | field => exact hfield

end Allocator

namespace Sharing

variable {ι : Type} [DecidableEq ι] {s : Sharing ι} {kind : UniqueKind} {i : ι} {d : Demand ι}

/-! ## Demands for unique names -/

/-- The name that is asked for, if it is one of the kind from the allocator: what it is for
every number. -/
def Demand.form? (kind : UniqueKind) (i : ι) : Demand ι → Option (UInt32 → Text)
  | .uniqueMethod j source session name keepsStart =>
    if kind = .method ∧ j = i then
      some (Allocator.uniqueMethodText source session name keepsStart)
    else none
  | .uniqueField j source session name =>
    if kind = .field ∧ j = i then some (Allocator.uniqueFieldText source session name) else none
  | _ => none

/-- Every such name ends in its number. -/
theorem Demand.endsIn_form {form : UInt32 → Text} (h : d.form? kind i = some form) (n : UInt32) :
    Naming.EndsIn (form n) n := by
  cases d with
  | uniqueMethod j source session name keepsStart =>
      simp only [form?, Option.ite_none_right_eq_some, Option.some.injEq] at h
      rw [← h.2]
      exact Allocator.endsIn_uniqueMethodText source session name keepsStart n
  | uniqueField j source session name =>
      simp only [form?, Option.ite_none_right_eq_some, Option.some.injEq] at h
      rw [← h.2]
      exact Allocator.endsIn_uniqueFieldText source session name n
  | _ => cases h

/-- A demand for a unique name gets the next number and counts it. -/
theorem serve_of_form {form : UInt32 → Text} (h : d.form? kind i = some form) :
    (s.serve d).1 = .answer (.text (form ((s.allocators i).next kind))) ∧
      ((s.serve d).2.allocators i).next kind = (s.allocators i).next kind + 1 := by
  cases d with
  | uniqueMethod j source session name keepsStart =>
      simp only [Demand.form?, Option.ite_none_right_eq_some, Option.some.injEq] at h
      obtain ⟨⟨rfl, rfl⟩, rfl⟩ := h
      exact ⟨rfl, by simp [serve, Allocator.uniqueMethod, Allocator.next]⟩
  | uniqueField j source session name =>
      simp only [Demand.form?, Option.ite_none_right_eq_some, Option.some.injEq] at h
      obtain ⟨⟨rfl, rfl⟩, rfl⟩ := h
      exact ⟨rfl, by simp [serve, Allocator.uniqueField, Allocator.next]⟩
  | _ => cases h

/-- Other demands leave the counter alone, unless they reset it. -/
theorem next_serve (h : d.form? kind i = none) (hreset : d ≠ .reset i) :
    ((s.serve d).2.allocators i).next kind = (s.allocators i).next kind := by
  cases d with
  | call c => rfl
  | handlerName j source word name descriptor isSurrogate => rfl
  | conform j mixin method =>
      rcases eq_or_ne i j with rfl | hij
      · simp [serve, Allocator.next_conform]
      · simp [serve, hij]
  | uniqueMethod j source session name keepsStart =>
      rcases eq_or_ne i j with rfl | hij
      · cases kind <;> simp_all [serve, Demand.form?, Allocator.uniqueMethod, Allocator.next]
      · simp [serve, hij]
  | uniqueField j source session name =>
      rcases eq_or_ne i j with rfl | hij
      · cases kind <;> simp_all [serve, Demand.form?, Allocator.uniqueField, Allocator.next]
      · simp [serve, hij]
  | reset j =>
      have hij : i ≠ j := by
        rintro rfl
        exact hreset rfl
      simp [serve, hij]

/-! ## Runs of demands -/

/-- What the demands for unique names of the kind are answered by the allocator. -/
def uniqueReplies (s : Sharing ι) (kind : UniqueKind) (i : ι) (demands : List (Demand ι)) :
    List Reply :=
  ((demands.zip (Runs.outputs serve s demands)).filter fun p => (p.1.form? kind i).isSome).map
    Prod.snd

theorem uniqueReplies_cons_of_none (h : d.form? kind i = none) (demands : List (Demand ι)) :
    s.uniqueReplies kind i (d :: demands) = (s.serve d).2.uniqueReplies kind i demands := by
  simp [uniqueReplies, Runs.outputs, h]

theorem uniqueReplies_cons_of_some {form : UInt32 → Text} (h : d.form? kind i = some form)
    (demands : List (Demand ι)) :
    s.uniqueReplies kind i (d :: demands)
      = (s.serve d).1 :: (s.serve d).2.uniqueReplies kind i demands := by
  simp [uniqueReplies, Runs.outputs, h]

/-- Between two resets, the unique names of a kind have the numbers from the next one on. -/
theorem uniqueReplies_eq_mapIdx (s : Sharing ι) (kind : UniqueKind) (i : ι)
    {demands : List (Demand ι)} (hreset : .reset i ∉ demands) :
    s.uniqueReplies kind i demands
      = (demands.filterMap (Demand.form? kind i)).mapIdx fun k form =>
          .answer (.text (form ((s.allocators i).next kind + UInt32.ofNat k))) := by
  induction demands generalizing s with
  | nil => rfl
  | cons d demands ih =>
      have hrest := ih (s.serve d).2 (fun hmem => hreset (List.mem_cons_of_mem d hmem))
      cases hform : d.form? kind i with
      | none =>
          have hd : d ≠ .reset i := fun hd => hreset (hd ▸ List.mem_cons_self)
          rw [uniqueReplies_cons_of_none hform, hrest, next_serve hform hd,
            List.filterMap_cons_none hform]
      | some form =>
          obtain ⟨hreply, hnext⟩ := serve_of_form (s := s) hform
          have hlater : ∀ n : UInt32, ∀ k, n + 1 + UInt32.ofNat k = n + UInt32.ofNat (k + 1) := by
            intro n k
            rw [UInt32.ofNat_add, UInt32.add_assoc, UInt32.add_comm 1]
            rfl
          rw [uniqueReplies_cons_of_some hform, hreply, hrest, hnext,
            List.filterMap_cons_some hform, List.mapIdx_cons]
          simp [hlater]

/-- Between two resets, an allocator gives no unique method the name of another one, and no
unique field that of another one, until the counter has gone through all its values. It does
not matter what goes into the names, in which layout, and what else is asked for in
between. -/
theorem nodup_uniqueReplies (s : Sharing ι) (i : ι) {demands : List (Demand ι)}
    (hreset : .reset i ∉ demands) (kind : UniqueKind)
    (hcount : (demands.filterMap (Demand.form? kind i)).length ≤ UInt32.size) :
    (s.uniqueReplies kind i demands).Nodup := by
  rw [uniqueReplies_eq_mapIdx s kind i hreset, List.Nodup, List.pairwise_iff_getElem]
  intro j k hj hk hjk heq
  rw [List.length_mapIdx] at hj hk
  simp only [List.getElem_mapIdx, Reply.answer.injEq, Answer.text.injEq] at heq
  -- Equal names end in equal numbers,
  have hends : ∀ l (hl : l < (demands.filterMap (Demand.form? kind i)).length) n,
      Naming.EndsIn ((demands.filterMap (Demand.form? kind i))[l] n) n := by
    intro l hl n
    obtain ⟨d, _, hd⟩ := List.mem_filterMap.mp (List.getElem_mem hl)
    exact Demand.endsIn_form hd n
  have hnumbers := (hends j hj _).unique (heq ▸ hends k hk _)
  -- but the counter has not come round yet.
  have hmod := congrArg UInt32.toNat ((UInt32.add_right_inj _).mp hnumbers)
  rw [UInt32.toNat_ofNat_of_lt' (by omega), UInt32.toNat_ofNat_of_lt' (by omega)] at hmod
  omega

/-- Both kinds of members and both layouts of methods, with dollar signs all over, while another
allocator starts over. -/
theorem nodup_uniqueReplies_dollars :
    let s : Sharing Bool := new fun _ => .literal "game/World"
    let mod := some (Text.ofString "mod$0")
    let session := Text.ofString "run$1"
    let name := Text.ofString "tick$0"
    let demands : List (Demand Bool) :=
      [.uniqueMethod true mod session name true, .uniqueField true none session name,
        .uniqueMethod true none session (Text.ofString "mod$0$tick") false, .reset false,
        .uniqueMethod true mod session name true, .uniqueField true mod [] name]
    .reset true ∉ demands ∧ ∀ kind,
      (demands.filterMap (Demand.form? kind true)).length ≤ UInt32.size ∧
        (s.uniqueReplies kind true demands).Nodup := by
  intro s mod session name demands
  have hreset : .reset true ∉ demands := by simp [demands]
  have hcount : ∀ kind, (demands.filterMap (Demand.form? kind true)).length ≤ UInt32.size := by
    intro kind
    cases kind <;> decide
  exact ⟨hreset, fun kind => ⟨hcount kind, nodup_uniqueReplies s true hreset kind (hcount kind)⟩⟩

end Sharing

end ClassGraft
