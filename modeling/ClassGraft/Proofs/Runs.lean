/-!
# Runs that may fail

A chain of steps of which each may refuse is a `foldlM` in `Except`. A run is
taken apart by its first step, by what every step preserves, and by what no step
refuses. Where a refusal comes with the state it arose in, a run has a final state
in any case, and two runs can be compared step by step.

Steps that cannot fail but answer are run in the same way, and an answer is taken from
the state that the steps before it leave.
-/

namespace ClassGraft.Runs

variable {ε σ α β : Type} {step : σ → α → Except ε σ}

/-- A value that was mapped stems from a value. -/
theorem map_eq_ok_iff {x : Except ε α} {f : α → β} {b : β} :
    x.map f = .ok b ↔ ∃ a, x = .ok a ∧ f a = b := by
  cases x <;> simp [Except.map]

/-- Two steps that succeed both succeed, the second one from where the first one ended. -/
theorem bind_eq_ok_iff {x : Except ε α} {f : α → Except ε β} {b : β} :
    x >>= f = .ok b ↔ ∃ a, x = .ok a ∧ f a = .ok b := by
  cases x with
  | error fault => simp [bind, Except.bind]
  | ok a => simp [bind, Except.bind]

/-- A run that succeeds has a first step that succeeds, and a rest. -/
theorem foldlM_cons_eq_ok_iff {x : α} {xs : List α} {s t : σ} :
    (x :: xs).foldlM step s = .ok t ↔ ∃ m, step s x = .ok m ∧ xs.foldlM step m = .ok t := by
  rw [List.foldlM_cons, bind_eq_ok_iff]

/-- It also has a last step that succeeds, and what came before. -/
theorem foldlM_concat_eq_ok_iff {x : α} {xs : List α} {s t : σ} :
    (xs ++ [x]).foldlM step s = .ok t ↔ ∃ m, xs.foldlM step s = .ok m ∧ step m x = .ok t := by
  rw [List.foldlM_append, bind_eq_ok_iff]
  simp only [List.foldlM_cons, List.foldlM_nil, bind_pure]

/-- What every step preserves, a run preserves. -/
theorem foldlM_induction {P : σ → Prop} {xs : List α} {s t : σ}
    (hstep : ∀ s, ∀ x ∈ xs, ∀ t, P s → step s x = .ok t → P t) (hs : P s)
    (h : xs.foldlM step s = .ok t) : P t := by
  induction xs generalizing s with
  | nil =>
      cases h
      exact hs
  | cons x xs ih =>
      obtain ⟨m, hfirst, hrest⟩ := foldlM_cons_eq_ok_iff.mp h
      have hm : P m := hstep s x (by simp) m hs hfirst
      exact ih (fun s y hy => hstep s y (List.mem_cons_of_mem _ hy)) hm hrest

/-- Where no step refuses, the run succeeds. -/
theorem exists_foldlM_eq_ok (hstep : ∀ s x, ∃ t, step s x = .ok t) (xs : List α) (s : σ) :
    ∃ t, xs.foldlM step s = .ok t := by
  induction xs generalizing s with
  | nil => exact ⟨s, rfl⟩
  | cons x xs ih =>
      obtain ⟨m, hfirst⟩ := hstep s x
      obtain ⟨t, hrest⟩ := ih m
      exact ⟨t, foldlM_cons_eq_ok_iff.mpr ⟨m, hfirst, hrest⟩⟩

/-- A run that is refused is refused at one of its steps: the steps before it succeed, and
it is refused where they lead. -/
theorem foldlM_eq_error_iff {xs : List α} {s : σ} {e : ε} :
    xs.foldlM step s = .error e ↔ ∃ before x after m, xs = before ++ x :: after ∧
      before.foldlM step s = .ok m ∧ step m x = .error e := by
  constructor
  · intro h
    induction xs generalizing s with
    | nil => cases h
    | cons x xs ih =>
        cases hx : step s x with
        | error e' =>
            rw [List.foldlM_cons, hx] at h
            cases h
            exact ⟨[], x, xs, s, rfl, rfl, hx⟩
        | ok t =>
            rw [List.foldlM_cons, hx] at h
            obtain ⟨before, y, after, m, rfl, hbefore, hy⟩ := ih h
            exact ⟨x :: before, y, after, m, rfl, foldlM_cons_eq_ok_iff.mpr ⟨t, hx, hbefore⟩, hy⟩
  · rintro ⟨before, x, after, m, rfl, hbefore, hx⟩
    rw [List.foldlM_append, hbefore]
    show (x :: after).foldlM step m = _
    rw [List.foldlM_cons, hx]
    rfl

/-- So is a run over some of the elements of a list, and the list is cut at that step. -/
theorem exists_of_foldlM_filter_eq_error {p : α → Bool} {xs : List α} {s : σ} {e : ε}
    (h : (xs.filter p).foldlM step s = .error e) :
    ∃ before x after m, xs = before ++ x :: after ∧ p x = true ∧
      (before.filter p).foldlM step s = .ok m ∧ step m x = .error e := by
  obtain ⟨pre, x, post, m, hsplit, hpre, hx⟩ := foldlM_eq_error_iff.mp h
  obtain ⟨left, right, rfl, rfl, hright⟩ := List.filter_eq_append_iff.mp hsplit
  obtain ⟨gap, after, rfl, hgap, hpx, _⟩ := List.filter_eq_cons_iff.mp hright
  refine ⟨left ++ gap, x, after, m, (List.append_assoc ..).symm, hpx, ?_, hx⟩
  rw [List.filter_append, List.filter_eq_nil_iff.mpr hgap, List.append_nil]
  exact hpre

/-- The state in which a run ended, or in which it was refused. -/
def final : Except (ε × σ) σ → σ
  | .ok s => s
  | .error refusal => refusal.2

/-- What holds where one run ended and is preserved by another holds where the two ended, one
after the other. -/
theorem final_bind {P : σ → Prop} {x : Except (ε × σ) σ} {f : σ → Except (ε × σ) σ}
    (hx : P (final x)) (hf : ∀ s, P s → P (final (f s))) : P (final (x >>= f)) := by
  cases x with
  | error refusal => exact hx
  | ok s => exact hf s hx

/-- What every step preserves, refused or not, holds of the final state. -/
theorem foldlM_final_induction {P : σ → Prop} {step : σ → α → Except (ε × σ) σ}
    {xs : List α} {s : σ} (hstep : ∀ s x, P s → P (final (step s x))) (hs : P s) :
    P (final (xs.foldlM step s)) := by
  induction xs generalizing s with
  | nil => exact hs
  | cons x xs ih =>
      rw [List.foldlM_cons]
      exact final_bind (hstep s x hs) fun _ ht => ih ht

/-- What holds before a step whenever it holds after it, holds before a run. -/
theorem of_final_foldlM {P : σ → Prop} {step : σ → α → Except (ε × σ) σ} {xs : List α} {s : σ}
    (hback : ∀ s x, P (final (step s x)) → P s) (h : P (final (xs.foldlM step s))) : P s :=
  foldlM_final_induction (P := fun t => P t → P s) (fun t x ht hx => ht (hback t x hx)) id h

/-! ## Steps that answer -/

/-- The state that steps leave which each give an answer. -/
def after (step : σ → α → β × σ) (s : σ) (xs : List α) : σ :=
  xs.foldl (fun s x => (step s x).2) s

/-- Their answers, in order. -/
def outputs (step : σ → α → β × σ) (s : σ) : List α → List β
  | [] => []
  | x :: xs => (step s x).1 :: outputs step (step s x).2 xs

/-- An answer depends on the steps before it only through the state that they leave. -/
theorem getElem?_outputs (step : σ → α → β × σ) (s : σ) {xs : List α} {i : Nat} {x : α}
    (h : xs[i]? = some x) :
    (outputs step s xs)[i]? = some (step (after step s (xs.take i)) x).1 := by
  induction xs generalizing s i with
  | nil => simp at h
  | cons first rest ih =>
      cases i with
      | zero =>
          obtain rfl : first = x := by simpa using h
          rfl
      | succ i => exact ih (step s first).2 (by simpa using h)

/-- The answer to the step behind others. -/
theorem getElem?_outputs_append (step : σ → α → β × σ) (s : σ) (xs ys : List α) (x : α) :
    (outputs step s (xs ++ x :: ys))[xs.length]? = some (step (after step s xs) x).1 := by
  have hx : (xs ++ x :: ys)[xs.length]? = some x := by simp
  rw [getElem?_outputs step s hx, List.take_left]

theorem after_append (step : σ → α → β × σ) (s : σ) (xs ys : List α) :
    after step s (xs ++ ys) = after step (after step s xs) ys :=
  List.foldl_append

/-- A run consists of the steps before one of its steps, that step, and those after it. -/
theorem eq_take_append_drop {xs : List α} {i : Nat} {x : α} (hi : xs[i]? = some x) :
    xs = xs.take i ++ x :: xs.drop (i + 1) := by
  obtain ⟨hlt, hget⟩ := List.getElem?_eq_some_iff.mp hi
  rw [← hget, ← List.drop_eq_getElem_cons hlt, List.take_append_drop]

/-- Before a later step there are those before an earlier one, the earlier one itself, and those
between the two. -/
theorem take_eq_of_lt {xs : List α} {i j : Nat} {x : α} (hij : i < j) (hi : xs[i]? = some x) :
    xs.take j = xs.take i ++ x :: (xs.take j).drop (i + 1) := by
  have hi' : (xs.take j)[i]? = some x := by rw [List.getElem?_take_of_lt hij, hi]
  have hsplit := eq_take_append_drop hi'
  rwa [List.take_take, Nat.min_eq_left (Nat.le_of_lt hij)] at hsplit

/-- So the state before the later step comes from the one before the earlier step. -/
theorem after_take_of_lt (step : σ → α → β × σ) (s : σ) {xs : List α} {i j : Nat} {x : α}
    (hij : i < j) (hi : xs[i]? = some x) :
    after step s (xs.take j)
      = after step (step (after step s (xs.take i)) x).2 ((xs.take j).drop (i + 1)) :=
  calc after step s (xs.take j)
    _ = after step s (xs.take i ++ x :: (xs.take j).drop (i + 1)) :=
        congrArg _ (take_eq_of_lt hij hi)
    _ = _ := after_append step s (xs.take i) (x :: (xs.take j).drop (i + 1))

/-! ## Two runs side by side -/

/-- Both runs succeed, or both are refused for the same reason, and they end in related
states. -/
inductive Alike (R : σ → σ → Prop) : Except (ε × σ) σ → Except (ε × σ) σ → Prop
  | ok {s t : σ} (h : R s t) : Alike R (.ok s) (.ok t)
  | error (fault : ε) {s t : σ} (h : R s t) : Alike R (.error (fault, s)) (.error (fault, t))

theorem Alike.bind {R : σ → σ → Prop} {x y : Except (ε × σ) σ} {f g : σ → Except (ε × σ) σ}
    (h : Alike R x y) (hrest : ∀ s t, x = .ok s → R s t → Alike R (f s) (g t)) :
    Alike R (x >>= f) (y >>= g) := by
  cases h with
  | ok hst => exact hrest _ _ rfl hst
  | error fault hst => exact .error fault hst

/-- Steps that keep two states related keep two runs related. What the steps need of
the first run may be known of its end only, if it then holds all along. -/
theorem foldlM_alike {R : σ → σ → Prop} {P : σ → Prop} {step : σ → α → Except (ε × σ) σ}
    (hback : ∀ s x, P (final (step s x)) → P s)
    (hstep : ∀ s t x, R s t → P (final (step s x)) → Alike R (step s x) (step t x))
    {xs : List α} {s t : σ} (hst : R s t) (h : P (final (xs.foldlM step s))) :
    Alike R (xs.foldlM step s) (xs.foldlM step t) := by
  induction xs generalizing s t with
  | nil => exact .ok hst
  | cons x xs ih =>
      rw [List.foldlM_cons] at h ⊢
      rw [List.foldlM_cons]
      cases hx : step s x with
      | error refusal =>
          rw [hx] at h
          have hboth := hstep s t x hst (by rw [hx]; exact h)
          rw [hx] at hboth
          exact hboth.bind fun _ _ hok => by cases hok
      | ok u =>
          rw [hx] at h
          have hu : P u := of_final_foldlM hback h
          have hboth := hstep s t x hst (by rw [hx]; exact hu)
          rw [hx] at hboth
          refine hboth.bind ?_
          rintro _ v ⟨⟩ huv
          exact ih huv h

end ClassGraft.Runs
