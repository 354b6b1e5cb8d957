import Mathlib.Data.List.Infix
import Mathlib.Logic.Basic
import ClassGraft.Proofs.Merge.Sites

/-!
# Where merged methods go

Every method that is merged goes through one operation: it takes the place of the
first method with its final name and type, or is added at the end. So the names and
types in a target stay where they are, and what became of a method can be told from
the list of the methods that were put after it.

The final names come from the report, in the order of the methods that have a place.
-/

namespace ClassGraft

/-- Where a list goes on at the end only, an old position is found as before. -/
theorem idxOf?_of_isPrefix {α : Type} [BEq α] {xs ys : List α} (h : xs <+: ys) {i : Nat}
    (hi : i < xs.length) (a : α) : ys.idxOf? a = some i ↔ xs.idxOf? a = some i := by
  obtain ⟨later, rfl⟩ := h
  unfold List.idxOf?
  rw [List.findIdx?_append]
  cases xs.findIdx? (· == a) with
  | some j => simp
  | none =>
      cases later.findIdx? (· == a) with
      | none => simp
      | some j =>
          simp only [Option.map_some, Option.none_or, Option.some.injEq, reduceCtorEq, iff_false]
          omega

namespace TargetMethod

theorem isAt_iff {m : TargetMethod} {name : MemberName} {type : MethodType ClassName} :
    m.isAt name type = true ↔ m.name = name ∧ m.type = type := by
  simp [isAt]

/-- The last of some methods with this name and type. -/
def last? (ms : List TargetMethod) (name : MemberName) (type : MethodType ClassName) :
    Option TargetMethod :=
  ms.reverse.find? fun m => m.isAt name type

variable {m : TargetMethod} {ms : List TargetMethod} {name : MemberName}
  {type : MethodType ClassName}

theorem last?_cons : last? (m :: ms) name type
    = (last? ms name type).or (if m.isAt name type then some m else none) := by
  rw [last?, List.reverse_cons, List.find?_append, List.find?_singleton]
  rfl

theorem last?_concat : last? (ms ++ [m]) name type
    = if m.isAt name type then some m else last? ms name type := by
  rw [last?, List.reverse_append, List.reverse_singleton, List.singleton_append, List.find?_cons]
  cases m.isAt name type <;> rfl

theorem last?_eq_none_iff : last? ms name type = none ↔ ∀ m ∈ ms, ¬ m.isAt name type = true := by
  simp [last?]

theorem mem_of_last? (h : last? ms name type = some m) : m ∈ ms ∧ m.isAt name type = true := by
  unfold last? at h
  have hat := List.find?_some h
  exact ⟨List.mem_reverse.mp (List.mem_of_find?_eq_some h), hat⟩

end TargetMethod

namespace Target

/-! ## One method -/

/-- Name and type of each method. -/
def methodKeys (t : Target) : List (MemberName × MethodType ClassName) :=
  t.methods.map fun m => (m.name, m.type)

/-- A method is found by its name and type. -/
theorem methodIndex?_eq_idxOf? (t : Target) (name : MemberName) (type : MethodType ClassName) :
    t.methodIndex? name type = t.methodKeys.idxOf? (name, type) := by
  rw [methodIndex?, methodKeys, List.idxOf?, List.findIdx?_map]
  congr 1

/-- A key that is there is found. -/
theorem exists_methodIndex?_of_mem {t : Target} {name : MemberName}
    {type : MethodType ClassName} (h : (name, type) ∈ t.methodKeys) :
    ∃ i, t.methodIndex? name type = some i := by
  rw [methodIndex?_eq_idxOf?]
  exact Option.ne_none_iff_exists'.mp fun hnone => List.idxOf?_eq_none_iff.mp hnone h

/-- It is at the position where it is found. -/
theorem getElem?_methodKeys_of_methodIndex? {t : Target} {name : MemberName}
    {type : MethodType ClassName} {i : Nat} (h : t.methodIndex? name type = some i) :
    t.methodKeys[i]? = some (name, type) := by
  rw [methodIndex?_eq_idxOf?] at h
  obtain ⟨hlt, hget, _⟩ := List.idxOf?_eq_some_iff.mp h
  rw [List.getElem?_eq_getElem hlt, hget]

theorem hasMethod_iff (t : Target) (name : MemberName) (type : MethodType ClassName) :
    t.hasMethod name type = true ↔ (name, type) ∈ t.methodKeys := by
  simp [hasMethod, methodKeys, TargetMethod.isAt]

theorem getElem?_methodKeys {t : Target} {i : Nat} {m : TargetMethod}
    (h : t.methods[i]? = some m) : t.methodKeys[i]? = some (m.name, m.type) := by
  rw [methodKeys, List.getElem?_map, h]
  rfl

/-- Putting a method leaves all keys where they are. -/
theorem methodKeys_putMethod (t : Target) (x : TargetMethod) :
    t.methodKeys <+: (t.putMethod x).methodKeys := by
  unfold putMethod
  split
  · next i hi =>
    obtain ⟨hlt, hkey⟩ := List.getElem?_eq_some_iff.mp (getElem?_methodKeys_of_methodIndex? hi)
    have hsame : (t.methods.set i x).map (fun m => (m.name, m.type)) = t.methodKeys := by
      rw [List.map_set, ← hkey]
      exact List.set_getElem_self hlt
    exact hsame ▸ List.prefix_rfl
  · simp [methodKeys]

/-- Putting a method leaves the rest of the target. -/
theorem exists_putMethod_eq (t : Target) (x : TargetMethod) :
    ∃ methods, t.putMethod x = { t with methods } := by
  unfold putMethod
  split
  · exact ⟨_, rfl⟩
  · exact ⟨_, rfl⟩

@[simp] theorem kind_putMethod (t : Target) (x : TargetMethod) :
    (t.putMethod x).kind = t.kind := by
  unfold putMethod
  split <;> rfl

/-- Where keys are only added at the end, an old position is found as before. -/
theorem methodIndex?_of_isPrefix {t t' : Target} (h : t.methodKeys <+: t'.methodKeys) {i : Nat}
    (hi : i < t.methods.length) (name : MemberName) (type : MethodType ClassName) :
    t'.methodIndex? name type = some i ↔ t.methodIndex? name type = some i := by
  rw [methodIndex?_eq_idxOf?, methodIndex?_eq_idxOf?]
  exact idxOf?_of_isPrefix h (by simpa [methodKeys] using hi) (name, type)

/-- Putting a method changes one entry at most: the first one with its name and
type. -/
theorem getElem?_putMethod {t : Target} {i : Nat} {m : TargetMethod}
    (hm : t.methods[i]? = some m) (x : TargetMethod) :
    (t.putMethod x).methods[i]?
      = some (if t.methodIndex? m.name m.type = some i ∧ x.isAt m.name m.type = true then x
        else m) := by
  unfold putMethod
  split
  · next j hj =>
    by_cases hij : j = i
    · subst hij
      have hfound := (getElem?_methodKeys_of_methodIndex? hj).symm.trans (getElem?_methodKeys hm)
      obtain ⟨hname, htype⟩ : x.name = m.name ∧ x.type = m.type := by simpa using hfound
      have hlt := (List.getElem?_eq_some_iff.mp hm).1
      rw [hname, htype] at hj
      simp [hj, TargetMethod.isAt, hname, htype, hlt]
    · rw [if_neg, List.getElem?_set_ne hij, hm]
      rintro ⟨hi, hat⟩
      obtain ⟨hname, htype⟩ := TargetMethod.isAt_iff.mp hat
      rw [hname, htype, hi] at hj
      exact hij (Option.some.inj hj).symm
  · next hnone =>
    rw [if_neg, List.getElem?_append_left (List.getElem?_eq_some_iff.mp hm).1, hm]
    rintro ⟨hi, hat⟩
    obtain ⟨hname, htype⟩ := TargetMethod.isAt_iff.mp hat
    rw [hname, htype, hi] at hnone
    cases hnone

/-- Whatever stands somewhere after a method was put is that method, or stood there before. -/
theorem eq_or_getElem?_of_putMethod {t : Target} {x m : TargetMethod} {i : Nat}
    (h : (t.putMethod x).methods[i]? = some m) : m = x ∨ t.methods[i]? = some m := by
  unfold putMethod at h
  split at h
  · next j _ =>
    rw [List.getElem?_set] at h
    split at h
    · split at h
      · exact Or.inl (Option.some.inj h).symm
      · cases h
    · exact Or.inr h
  · rw [List.getElem?_append] at h
    split at h
    · exact Or.inr h
    · exact Or.inl (List.mem_singleton.mp (List.mem_of_getElem? h))

/-- A method that was put is the first one with its name and type. -/
theorem exists_getElem?_putMethod (t : Target) (x : TargetMethod) :
    ∃ i, (t.putMethod x).methodIndex? x.name x.type = some i ∧
      (t.putMethod x).methods[i]? = some x := by
  cases hindex : t.methodIndex? x.name x.type with
  | some i =>
      obtain ⟨hlt, _⟩ := List.getElem?_eq_some_iff.mp (getElem?_methodKeys_of_methodIndex? hindex)
      have hlt : i < t.methods.length := by simpa [methodKeys] using hlt
      have hfirst := methodIndex?_of_isPrefix (methodKeys_putMethod t x) hlt x.name x.type
      refine ⟨i, hfirst.mpr hindex, ?_⟩
      simp only [putMethod, hindex]
      exact List.getElem?_set_self hlt
  | none =>
      have hnone : t.methods.findIdx? (fun m => m.isAt x.name x.type) = none := hindex
      simp only [putMethod, hindex]
      refine ⟨t.methods.length, ?_, List.getElem?_concat_length⟩
      show (t.methods ++ [x]).findIdx? (fun m => m.isAt x.name x.type) = some t.methods.length
      rw [List.findIdx?_append, hnone]
      simp [TargetMethod.isAt]

/-- A key that is there gets no second place. -/
theorem methodKeys_putMethod_of_mem {t : Target} {x : TargetMethod}
    (h : (x.name, x.type) ∈ t.methodKeys) : (t.putMethod x).methodKeys = t.methodKeys := by
  obtain ⟨i, hi⟩ := exists_methodIndex?_of_mem h
  refine ((methodKeys_putMethod t x).eq_of_length ?_).symm
  simp [methodKeys, putMethod, hi]

/-- A key that is not there gets the last place. -/
theorem methodKeys_putMethod_of_not_mem {t : Target} {x : TargetMethod}
    (h : (x.name, x.type) ∉ t.methodKeys) :
    (t.putMethod x).methodKeys = t.methodKeys ++ [(x.name, x.type)] := by
  have hnone : t.methodIndex? x.name x.type = none := by
    rw [methodIndex?_eq_idxOf?]
    exact List.idxOf?_eq_none_iff.mpr h
  simp [methodKeys, putMethod, hnone]

/-! ## Many methods -/

/-- Put methods one after the other. -/
def putMethods (t : Target) (xs : List TargetMethod) : Target := xs.foldl putMethod t

/-- Putting methods leaves the rest of the target. -/
theorem exists_putMethods_eq (t : Target) (xs : List TargetMethod) :
    ∃ methods, t.putMethods xs = { t with methods } := by
  induction xs generalizing t with
  | nil => exact ⟨_, rfl⟩
  | cons x xs ih =>
      obtain ⟨_, hput⟩ := exists_putMethod_eq t x
      obtain ⟨methods, hrest⟩ := ih (t.putMethod x)
      exact ⟨methods, hrest.trans (by rw [hput])⟩

/-- Only the methods of a target matter for where methods are put. -/
theorem methods_putMethods_congr {t t' : Target} (h : t.methods = t'.methods)
    (xs : List TargetMethod) : (t.putMethods xs).methods = (t'.putMethods xs).methods := by
  induction xs generalizing t t' with
  | nil => exact h
  | cons x xs ih =>
      refine ih ?_
      unfold putMethod methodIndex?
      rw [h]
      split <;> rfl

/-- Putting methods leaves all keys where they are. -/
theorem methodKeys_putMethods (t : Target) (xs : List TargetMethod) :
    t.methodKeys <+: (t.putMethods xs).methodKeys := by
  induction xs generalizing t with
  | nil => exact List.prefix_rfl
  | cons x xs ih => exact (methodKeys_putMethod t x).trans (ih (t.putMethod x))

/-- Whatever stands somewhere afterwards was put, or stood there before. -/
theorem mem_or_getElem?_of_putMethods {t : Target} {xs : List TargetMethod} {m : TargetMethod}
    {i : Nat} (h : (t.putMethods xs).methods[i]? = some m) : m ∈ xs ∨ t.methods[i]? = some m := by
  induction xs generalizing t with
  | nil => exact Or.inr h
  | cons x xs ih =>
      rcases ih h with hlater | hput
      · exact Or.inl (List.mem_cons_of_mem x hlater)
      · refine (eq_or_getElem?_of_putMethod hput).imp_left ?_
        rintro rfl
        exact List.mem_cons_self

/-- The keys of methods that were put are there. -/
theorem mem_methodKeys_putMethods {t : Target} {xs : List TargetMethod} {x : TargetMethod}
    (hx : x ∈ xs) : (x.name, x.type) ∈ (t.putMethods xs).methodKeys := by
  induction xs generalizing t with
  | nil => cases hx
  | cons y ys ih =>
      rcases List.mem_cons.mp hx with rfl | hx
      · obtain ⟨i, _, hi⟩ := t.exists_getElem?_putMethod x
        exact (methodKeys_putMethods (t.putMethod x) ys).subset
          (List.mem_of_getElem? (getElem?_methodKeys hi))
      · exact ih hx

/-- What stands somewhere after methods were put: the last of them with the name and type of
what stood there, if that was the first one with these. -/
theorem getElem?_putMethods {t : Target} {i : Nat} {m : TargetMethod}
    (hm : t.methods[i]? = some m) (xs : List TargetMethod) :
    (t.putMethods xs).methods[i]? = some (if t.methodIndex? m.name m.type = some i then
      (TargetMethod.last? xs m.name m.type).getD m else m) := by
  induction xs generalizing t m with
  | nil => simpa [putMethods, TargetMethod.last?] using hm
  | cons x xs ih =>
      have hput := getElem?_putMethod hm x
      have hindex := methodIndex?_of_isPrefix (methodKeys_putMethod t x)
        (List.getElem?_eq_some_iff.mp hm).1 m.name m.type
      show ((t.putMethod x).putMethods xs).methods[i]? = _
      rw [TargetMethod.last?_cons]
      by_cases hhit : t.methodIndex? m.name m.type = some i ∧ x.isAt m.name m.type = true
      · obtain ⟨hname, htype⟩ := TargetMethod.isAt_iff.mp hhit.2
        rw [if_pos hhit] at hput
        rw [ih hput, hname, htype, if_pos (hindex.mpr hhit.1), if_pos hhit.1, if_pos hhit.2]
        cases TargetMethod.last? xs m.name m.type <;> rfl
      · rw [if_neg hhit] at hput
        by_cases hfirst : t.methodIndex? m.name m.type = some i
        · have hother : ¬ x.isAt m.name m.type = true := fun hat => hhit ⟨hfirst, hat⟩
          rw [ih hput, if_pos (hindex.mpr hfirst), if_pos hfirst, if_neg hother, Option.or_none]
        · rw [ih hput, if_neg (mt hindex.mp hfirst), if_neg hfirst]

/-- The first method with a name and type is the last one that was put with them. -/
theorem eq_of_last?_putMethods {t : Target} {xs : List TargetMethod} {i : Nat}
    {m x : TargetMethod} (hm : (t.putMethods xs).methods[i]? = some m)
    (hi : (t.putMethods xs).methodIndex? m.name m.type = some i)
    (hx : TargetMethod.last? xs m.name m.type = some x) : m = x := by
  induction xs using List.reverseRecOn with
  | nil => cases hx
  | append_singleton xs y ih =>
      have hput : t.putMethods (xs ++ [y]) = (t.putMethods xs).putMethod y := by
        simp [putMethods]
      rw [hput] at hm hi
      rw [TargetMethod.last?_concat] at hx
      split at hx
      · next hat =>
        obtain rfl : y = x := Option.some.inj hx
        obtain ⟨hname, htype⟩ := TargetMethod.isAt_iff.mp hat
        obtain ⟨j, hj, hget⟩ := (t.putMethods xs).exists_getElem?_putMethod y
        rw [hname, htype, hi] at hj
        cases hj
        exact Option.some.inj (hm.symm.trans hget)
      · next hother =>
        have hold : (t.putMethods xs).methods[i]? = some m := by
          refine (eq_or_getElem?_of_putMethod hm).resolve_left ?_
          rintro rfl
          exact hother (TargetMethod.isAt_iff.mpr ⟨rfl, rfl⟩)
        have hindex := methodIndex?_of_isPrefix (methodKeys_putMethod (t.putMethods xs) y)
          (List.getElem?_eq_some_iff.mp hold).1 m.name m.type
        exact ih hold (hindex.mp hi) hx

/-- Of each method that was put, its name and type are those of one that was put afterwards,
be it a later one. -/
theorem exists_mem_putMethods {t : Target} {xs : List TargetMethod} {x : TargetMethod}
    (hx : x ∈ xs) :
    ∃ m ∈ (t.putMethods xs).methods, m ∈ xs ∧ m.name = x.name ∧ m.type = x.type := by
  obtain ⟨i, hi⟩ := exists_methodIndex?_of_mem (mem_methodKeys_putMethods (t := t) hx)
  have hat := getElem?_methodKeys_of_methodIndex? hi
  rw [methodKeys, List.getElem?_map, Option.map_eq_some_iff] at hat
  obtain ⟨m, hm, hkey⟩ := hat
  obtain ⟨hname, htype⟩ := Prod.mk.inj hkey
  cases hlast : TargetMethod.last? xs m.name m.type with
  | none =>
      have hother := TargetMethod.last?_eq_none_iff.mp hlast x hx
      exact absurd (TargetMethod.isAt_iff.mpr ⟨hname.symm, htype.symm⟩) hother
  | some y =>
      obtain rfl : m = y := eq_of_last?_putMethods hm (by rw [hname, htype, hi]) hlast
      exact ⟨m, List.mem_of_getElem? hm, (TargetMethod.mem_of_last? hlast).1, hname, htype⟩

/-- A method of another origin is kept exactly if no method with its name and type
is put while it is the first one with them. -/
theorem getElem?_putMethods_iff {t : Target} {i : Nat} {m : TargetMethod} {mixin : ClassName}
    {xs : List TargetMethod} (hxs : ∀ x ∈ xs, x.mergedFrom = some mixin)
    (hm : t.methods[i]? = some m) (hfrom : m.mergedFrom ≠ some mixin) :
    (t.putMethods xs).methods[i]? = some m ↔
      ¬ (t.methodIndex? m.name m.type = some i ∧ ∃ x ∈ xs, x.isAt m.name m.type = true) := by
  rw [getElem?_putMethods hm]
  by_cases hfirst : t.methodIndex? m.name m.type = some i
  · rw [if_pos hfirst]
    cases hlast : TargetMethod.last? xs m.name m.type with
    | none =>
        have hnone : ¬ ∃ x ∈ xs, x.isAt m.name m.type = true := fun ⟨x, hx, hat⟩ =>
          TargetMethod.last?_eq_none_iff.mp hlast x hx hat
        simp [hnone]
    | some x =>
        -- The method is gone, since what stands in its place comes from the mixin.
        obtain ⟨hx, hat⟩ := TargetMethod.mem_of_last? hlast
        have hother : x ≠ m := by
          rintro rfl
          exact hfrom (hxs x hx)
        simp only [Option.getD_some, Option.some.injEq, hother, hfirst, true_and, false_iff,
          not_not]
        exact ⟨x, hx, hat⟩
  · simp [hfirst]

/-- Where no method of its name is put, a method stands afterwards exactly if it stood there
before. -/
theorem getElem?_putMethods_of_name_ne {t : Target} {xs : List TargetMethod} {m : TargetMethod}
    {i : Nat} (hname : ∀ x ∈ xs, x.name ≠ m.name) :
    (t.putMethods xs).methods[i]? = some m ↔ t.methods[i]? = some m := by
  constructor
  · intro h
    exact (mem_or_getElem?_of_putMethods h).resolve_left fun hm => hname m hm rfl
  · intro hm
    have hnone : TargetMethod.last? xs m.name m.type = none :=
      TargetMethod.last?_eq_none_iff.mpr fun x hx hat =>
        hname x hx (TargetMethod.isAt_iff.mp hat).1
    rw [getElem?_putMethods hm, hnone, Option.getD_none, ite_self]

/-! ## The same methods again -/

/-- Methods whose names and types are there get no second places. -/
theorem methodKeys_putMethods_of_forall {t : Target} {xs : List TargetMethod}
    (h : ∀ x ∈ xs, (x.name, x.type) ∈ t.methodKeys) :
    (t.putMethods xs).methodKeys = t.methodKeys := by
  induction xs generalizing t with
  | nil => rfl
  | cons x xs ih =>
      have hput := methodKeys_putMethod_of_mem (h x List.mem_cons_self)
      have hrest : ((t.putMethod x).putMethods xs).methodKeys = (t.putMethod x).methodKeys := by
        refine ih fun y hy => ?_
        rw [hput]
        exact h y (List.mem_cons_of_mem x hy)
      exact hrest.trans hput

/-- Putting methods that were put changes nothing. -/
theorem putMethods_putMethods (t : Target) (xs : List TargetMethod) :
    (t.putMethods xs).putMethods xs = t.putMethods xs := by
  have hkeys : ((t.putMethods xs).putMethods xs).methodKeys = (t.putMethods xs).methodKeys :=
    methodKeys_putMethods_of_forall fun x hx => mem_methodKeys_putMethods hx
  have hlength : ((t.putMethods xs).putMethods xs).methods.length
      = (t.putMethods xs).methods.length := by
    simpa [methodKeys] using congrArg List.length hkeys
  have hmethods : ((t.putMethods xs).putMethods xs).methods = (t.putMethods xs).methods := by
    refine List.ext_getElem? fun i => ?_
    cases hm : (t.putMethods xs).methods[i]? with
    | none =>
        rw [List.getElem?_eq_none_iff] at hm ⊢
        exact hlength.trans_le hm
    | some m =>
        rw [getElem?_putMethods hm]
        split
        · next hi =>
          cases hx : TargetMethod.last? xs m.name m.type with
          | none => rfl
          | some x => rw [eq_of_last?_putMethods hm hi hx, Option.getD_some]
        · rfl
  obtain ⟨methods, hput⟩ := exists_putMethods_eq (t.putMethods xs) xs
  obtain rfl : methods = (t.putMethods xs).methods := by
    rw [hput] at hmethods
    exact hmethods
  exact hput

end Target

end ClassGraft
