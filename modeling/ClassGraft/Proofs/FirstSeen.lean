import Mathlib.Data.Finset.Dedup
import Mathlib.Data.Finset.Card
import Mathlib.Data.List.Induction

/-!
# Lists in first-seen order

`List.eraseDups` lists what a list holds, each element once, in the order in which they are
first seen. It grows at its end, by what is new, and the position that an element has in it
is the number of other elements that were seen before it.
-/

namespace ClassGraft.FirstSeen

variable {α : Type} [DecidableEq α]

/-- A list with one more element at its end has it only where it was new. -/
theorem eraseDups_concat (xs : List α) (x : α) :
    (xs ++ [x]).eraseDups = if x ∈ xs.eraseDups then xs.eraseDups else xs.eraseDups ++ [x] := by
  rw [List.eraseDups_append]
  by_cases hx : x ∈ xs
  · simp [hx, List.removeAll]
  · simp [hx, List.removeAll, List.eraseDups_cons]

theorem nodup_eraseDups (xs : List α) : xs.eraseDups.Nodup := by
  induction xs using List.reverseRecOn with
  | nil => exact List.nodup_nil
  | append_singleton xs x ih =>
      rw [eraseDups_concat]
      split
      · exact ih
      · next hx => exact List.nodup_append.mpr ⟨ih, List.nodup_singleton x, by grind⟩

/-- A list that repeats nothing stays as it is. -/
theorem eraseDups_of_nodup {xs : List α} (h : xs.Nodup) : xs.eraseDups = xs := by
  induction xs using List.reverseRecOn with
  | nil => rfl
  | append_singleton xs x ih =>
      obtain ⟨hxs, _, hx⟩ := List.nodup_append.mp h
      rw [eraseDups_concat, ih hxs, if_neg fun hmem => hx x hmem x (by simp) rfl]

/-- Each element is listed once, so the length counts them. -/
theorem length_eraseDups (xs : List α) : xs.eraseDups.length = xs.toFinset.card := by
  have hsame : xs.eraseDups.toFinset = xs.toFinset := by
    ext x
    simp
  rw [← hsame, List.toFinset_card_of_nodup (nodup_eraseDups xs)]

/-- The position of an element counts what was seen before it. -/
theorem idxOf_eraseDups {xs : List α} {x : α} (hx : x ∈ xs) :
    xs.eraseDups.idxOf x = (xs.takeWhile (· != x)).toFinset.card := by
  obtain ⟨before, later, rfl, hbefore⟩ := List.eq_append_cons_of_mem hx
  have hfront : (before ++ x :: later).takeWhile (· != x) = before := by
    rw [List.takeWhile_append_of_pos (by grind), List.takeWhile_cons_of_neg (by simp),
      List.append_nil]
  have hnew : (x :: later).removeAll before = x :: later.removeAll before := by
    simp [List.removeAll, hbefore]
  rw [hfront, ← length_eraseDups, List.eraseDups_append, hnew, List.eraseDups_cons,
    List.idxOf_append_of_notMem (by simpa using hbefore), List.idxOf_cons_self, Nat.add_zero]

end ClassGraft.FirstSeen
