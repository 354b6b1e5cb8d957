import ClassGraft.Descriptor.Reader

/-!
# Readers take what is written

A reader `Inverts` a way of writing when it succeeds with a value exactly on the
buffers that start with what is written for that value, and leaves what follows. That
is the round trip in both directions and exact consumption at once: the rest of the
buffer is any text whatever, so no descriptor is the start of another one.

One statement for each reader. Classes end at the first semicolon because their names
hold none; brackets are taken greedily, and what stands behind them is no bracket; the
parameters of a method end at a parenthesis because no type starts with one.
-/

namespace ClassGraft

/-- The reader takes off the buffer what is written for the value, and nothing else. -/
def Reader.Inverts {α : Type} (read : Reader α) (write : α → Text) : Prop :=
  ∀ buffer value rest, read buffer = .ok value rest ↔ buffer = write value ++ rest

/-- A value that was mapped stems from a value that was read. -/
theorem Reading.map_eq_ok_iff {α β : Type} {f : α → β} {r : Reading α} {b : β} {rest : Text} :
    r.map f = .ok b rest ↔ ∃ a, r = .ok a rest ∧ f a = b := by
  constructor
  · exact Reading.map_eq_ok
  · rintro ⟨a, rfl, rfl⟩
    rfl

/-- What an inverting reader reads may be packed up afterwards. -/
theorem Reader.Inverts.map_eq_ok_iff {α β : Type} {read : Reader α} {write : α → Text}
    (h : read.Inverts write) {f : α → β} {buffer rest : Text} {b : β} :
    (read buffer).map f = .ok b rest ↔ ∃ a, f a = b ∧ buffer = write a ++ rest := by
  simp only [Reading.map_eq_ok_iff, h buffer _ rest, and_comm]

/-! ## Primitives -/

theorem Primitive.inverts_read : Primitive.read.Inverts fun p => [p.letter] := by
  intro buffer p rest
  cases buffer with
  | nil => simp [Primitive.read]
  | cons c tail =>
      rw [Primitive.read, List.singleton_append, List.cons.injEq, ← ofLetter?_eq_some_iff]
      split
      · next q hq => simp [hq]
      · next hnone => simp [hnone]

/-- The letters of primitives mean nothing else. -/
theorem Primitive.letter_ne (p : Primitive) :
    p.letter ≠ 'L' ∧ p.letter ≠ '[' ∧ p.letter ≠ ')' ∧ p.letter ≠ 'V' := by
  cases p <;> decide

/-! ## Classes -/

namespace ClassName

/-- The names of classes hold no semicolon. -/
theorem semicolon_not_mem (n : ClassName) : ';' ∉ n.text := by
  intro hmem
  have hsep : (';' == '/') = false := by decide
  obtain ⟨part, hpart, hin⟩ := @Text.exists_mem_splitWhere (· == '/') _ _ hmem hsep
  have hclean := (n.valid.2 part hpart).2 ';' hin
  exact absurd hclean (by decide)

theorem read_render (n : ClassName) (rest : Text) :
    ClassName.read (n.render ++ rest) = .ok n rest := by
  have hname : ∀ c ∈ n.text, (c != ';') = true := by
    intro c hc
    have hne : c ≠ ';' := fun heq => n.semicolon_not_mem (heq ▸ hc)
    simpa using hne
  have hsplit : n.render ++ rest = 'L' :: (n.text ++ ';' :: rest) := by simp [render]
  rw [hsplit, ClassName.read, if_pos rfl, List.dropWhile_append_of_pos hname,
    List.takeWhile_append_of_pos hname]
  simp [ofText_eq_ok_iff.mpr (Eq.refl n.text)]

theorem eq_render_of_read {buffer rest : Text} {n : ClassName}
    (h : ClassName.read buffer = .ok n rest) : buffer = n.render ++ rest := by
  cases buffer with
  | nil => cases h
  | cons c tail =>
      rw [ClassName.read] at h
      split at h
      · next hc =>
        split at h
        · cases h
        · next d after hdrop =>
          split at h
          · next name hname =>
            cases h
            -- What was not taken for the name starts with the semicolon.
            have hd : d = ';' := by
              have hhead := List.head?_dropWhile_not (· != ';') tail
              rw [hdrop] at hhead
              simpa using hhead
            have hsplit := List.takeWhile_append_dropWhile (p := (· != ';')) (l := tail)
            rw [hdrop, hd, ofText_eq_ok_iff.mp hname] at hsplit
            rw [hc, ← hsplit, render]
            simp
          · cases h
      · cases h

theorem inverts_read : ClassName.read.Inverts render := by
  intro buffer n rest
  constructor
  · exact eq_render_of_read
  · rintro rfl
    exact read_render n rest

end ClassName

/-! ## References -/

namespace RefType

/-- The element of an array is a class where it starts like one, and a primitive
otherwise. -/
theorem readElement_eq_ok_iff {extra : Nat} {buffer rest : Text} {t : RefType ClassName} :
    RefType.readElement extra buffer = .ok t rest ↔
      (∃ cls, t = .objectArray extra cls ∧ buffer = cls.render ++ rest) ∨
        ∃ p, t = .primitiveArray extra p ∧ buffer = p.letter :: rest := by
  unfold RefType.readElement
  split
  · next tail =>
    rw [ClassName.inverts_read.map_eq_ok_iff]
    constructor
    · rintro ⟨cls, rfl, hbuffer⟩
      exact Or.inl ⟨cls, rfl, hbuffer⟩
    · rintro (⟨cls, rfl, hbuffer⟩ | ⟨p, _, hbuffer⟩)
      · exact ⟨cls, rfl, hbuffer⟩
      · exact absurd (List.cons.inj hbuffer).1.symm p.letter_ne.1
  · next hnot =>
    rw [Primitive.inverts_read.map_eq_ok_iff]
    constructor
    · rintro ⟨p, rfl, hbuffer⟩
      exact Or.inr ⟨p, rfl, hbuffer⟩
    · rintro (⟨cls, _, rfl⟩ | ⟨p, rfl, hbuffer⟩)
      · exact absurd rfl (hnot (cls.text ++ [';'] ++ rest))
      · exact ⟨p, rfl, hbuffer⟩

/-- A run of brackets is taken up to what is no bracket. -/
theorem read_brackets (extra : Nat) {c : Char} (hc : c ≠ '[') (rest : Text) :
    RefType.read (List.replicate (extra + 1) '[' ++ c :: rest)
      = RefType.readElement extra (c :: rest) := by
  have hall : ∀ d ∈ List.replicate extra '[', (d == '[') = true := by
    intro d hd
    simpa using (List.mem_replicate.mp hd).2
  have hstop : (c == '[') = false := by simpa using hc
  rw [List.replicate_succ, List.cons_append, RefType.read, if_neg (by decide), if_pos rfl,
    List.takeWhile_append_of_pos hall, List.dropWhile_append_of_pos hall]
  simp [hstop]

/-- What is taken greedily is a run of brackets. -/
theorem exists_brackets (t : Text) :
    ∃ extra, (t.takeWhile (· == '[')).length = extra ∧
      t = List.replicate extra '[' ++ t.dropWhile (· == '[') := by
  have hall : t.takeWhile (· == '[') = List.replicate (t.takeWhile (· == '[')).length '[' := by
    refine List.eq_replicate_of_mem ?_
    intro d hd
    simpa using List.all_eq_true.mp List.all_takeWhile d hd
  refine ⟨_, rfl, ?_⟩
  rw [← hall, List.takeWhile_append_dropWhile]

theorem read_render (t : RefType ClassName) (rest : Text) :
    RefType.read (t.render ++ rest) = .ok t rest := by
  cases t with
  | object cls =>
      show (ClassName.read (cls.render ++ rest)).map RefType.object = _
      rw [ClassName.read_render]
      rfl
  | objectArray extra cls =>
      have hbuffer : (RefType.objectArray extra cls).render ++ rest
          = List.replicate (extra + 1) '[' ++ 'L' :: (cls.text ++ [';'] ++ rest) := by
        simp [render, ClassName.render]
      rw [hbuffer, read_brackets extra (by decide)]
      exact readElement_eq_ok_iff.mpr (Or.inl ⟨cls, rfl, rfl⟩)
  | primitiveArray extra p =>
      have hbuffer : (RefType.primitiveArray extra p).render ++ rest
          = List.replicate (extra + 1) '[' ++ p.letter :: rest := by
        simp [render]
      rw [hbuffer, read_brackets extra p.letter_ne.2.1]
      exact readElement_eq_ok_iff.mpr (Or.inr ⟨p, rfl, rfl⟩)

theorem eq_render_of_read {buffer rest : Text} {t : RefType ClassName}
    (h : RefType.read buffer = .ok t rest) : buffer = t.render ++ rest := by
  cases buffer with
  | nil => cases h
  | cons c tail =>
      rw [RefType.read] at h
      split at h
      · obtain ⟨cls, hread, rfl⟩ := Reading.map_eq_ok h
        exact ClassName.eq_render_of_read hread
      · split at h
        · next hc =>
          obtain ⟨extra, hextra, hsplit⟩ := exists_brackets tail
          rw [hextra] at h
          rcases readElement_eq_ok_iff.mp h with ⟨cls, rfl, hrest⟩ | ⟨p, rfl, hrest⟩
          · rw [hc, hsplit, hrest, render, List.replicate_succ]
            simp
          · rw [hc, hsplit, hrest, render, List.replicate_succ]
            simp
        · cases h

theorem inverts_read : RefType.read.Inverts render := by
  intro buffer t rest
  constructor
  · exact eq_render_of_read
  · rintro rfl
    exact read_render t rest

/-- A reference type starts with the letter of classes or with a bracket. -/
theorem exists_render_eq_cons (t : RefType ClassName) :
    ∃ c tail, t.render = c :: tail ∧ (c = 'L' ∨ c = '[') := by
  cases t with
  | object cls => exact ⟨_, _, rfl, Or.inl rfl⟩
  | objectArray extra cls => exact ⟨_, _, rfl, Or.inr rfl⟩
  | primitiveArray extra p => exact ⟨_, _, rfl, Or.inr rfl⟩

end RefType

/-! ## Types of variables -/

namespace FieldType

theorem read_render (t : FieldType ClassName) (rest : Text) :
    FieldType.read (t.render ++ rest) = .ok t rest := by
  cases t with
  | primitive p =>
      show FieldType.read (p.letter :: rest) = _
      rw [FieldType.read, Primitive.ofLetter?_eq_some_iff.mpr rfl]
  | ref r =>
      obtain ⟨c, tail, hrender, hc⟩ := r.exists_render_eq_cons
      have hnone : Primitive.ofLetter? c = none := by
        rcases hc with rfl | rfl <;> decide
      have hread := r.read_render rest
      show FieldType.read (r.render ++ rest) = _
      rw [hrender, List.cons_append] at hread ⊢
      simp [FieldType.read, hnone, hc, hread, Reading.map]

theorem eq_render_of_read {buffer rest : Text} {t : FieldType ClassName}
    (h : FieldType.read buffer = .ok t rest) : buffer = t.render ++ rest := by
  cases buffer with
  | nil => cases h
  | cons c tail =>
      rw [FieldType.read] at h
      split at h
      · next p hp =>
        cases h
        rw [Primitive.ofLetter?_eq_some_iff.mp hp]
        rfl
      · split at h
        · obtain ⟨r, hread, rfl⟩ := Reading.map_eq_ok h
          exact RefType.eq_render_of_read hread
        · cases h

theorem inverts_read : FieldType.read.Inverts render := by
  intro buffer t rest
  constructor
  · exact eq_render_of_read
  · rintro rfl
    exact read_render t rest

/-- No type starts with the parenthesis that ends parameters, or with the letter that
stands for no result. -/
theorem exists_render_eq_cons (t : FieldType ClassName) :
    ∃ c tail, t.render = c :: tail ∧ c ≠ ')' ∧ c ≠ 'V' := by
  cases t with
  | primitive p => exact ⟨_, _, rfl, p.letter_ne.2.2⟩
  | ref r =>
      obtain ⟨c, tail, hrender, hc⟩ := r.exists_render_eq_cons
      refine ⟨c, tail, hrender, ?_⟩
      rcases hc with rfl | rfl <;> decide

end FieldType

/-! ## Types of methods -/

namespace MethodType

/-- One round of reading parameters: the closing parenthesis ends them, and anything
else must be a parameter. -/
theorem readParameters_eq_ok_iff {buffer rest : Text} {ts : List (FieldType ClassName)} :
    readParameters buffer = .ok ts rest ↔
      (ts = [] ∧ buffer = ')' :: rest) ∨
        ∃ t ts' after, ts = t :: ts' ∧ buffer = t.render ++ after ∧
          readParameters after = .ok ts' rest := by
  rw [readParameters.eq_def]
  split
  · next tail =>
    constructor
    · intro h
      cases h
      exact Or.inl ⟨rfl, rfl⟩
    · rintro (⟨rfl, hbuffer⟩ | ⟨t, ts', after, _, hbuffer, _⟩)
      · rw [(List.cons.inj hbuffer).2]
      · obtain ⟨c, more, hrender, hne, _⟩ := t.exists_render_eq_cons
        rw [hrender] at hbuffer
        exact absurd (List.cons.inj hbuffer).1.symm hne
  · next hnot =>
    have hopen : ¬ (ts = [] ∧ buffer = ')' :: rest) := fun h => hnot rest h.2
    simp only [hopen, false_or]
    split
    · next cause after hread =>
      constructor
      · intro h
        cases h
      · rintro ⟨t, ts', after, _, rfl, _⟩
        rw [FieldType.read_render] at hread
        cases hread
    · next t after hread =>
      rw [Reading.map_eq_ok_iff]
      constructor
      · rintro ⟨ts', hrest, rfl⟩
        exact ⟨t, ts', after, rfl, FieldType.eq_render_of_read hread, hrest⟩
      · rintro ⟨t', ts', after', rfl, rfl, hrest⟩
        rw [FieldType.read_render] at hread
        cases hread
        exact ⟨ts', hrest, rfl⟩

theorem inverts_readParameters :
    Reader.Inverts readParameters fun ts => ts.flatMap FieldType.render ++ [')'] := by
  intro buffer ts rest
  induction ts generalizing buffer with
  | nil =>
      rw [readParameters_eq_ok_iff]
      simp
  | cons t ts ih =>
      rw [readParameters_eq_ok_iff]
      simp only [reduceCtorEq, false_and, false_or, List.cons.injEq]
      constructor
      · rintro ⟨t', ts', after, ⟨rfl, rfl⟩, rfl, hrest⟩
        rw [(ih after).mp hrest]
        simp
      · rintro rfl
        exact ⟨t, ts, _, ⟨rfl, rfl⟩, by simp, (ih _).mpr rfl⟩

theorem inverts_readResult : readResult.Inverts renderResult := by
  intro buffer result rest
  unfold readResult
  split
  · next tail =>
    cases result with
    | none => simp [renderResult, eq_comm]
    | some t =>
        obtain ⟨c, more, hrender, _, hne⟩ := t.exists_render_eq_cons
        simp [renderResult, hrender, Ne.symm hne]
  · next hnot =>
    rw [FieldType.inverts_read.map_eq_ok_iff]
    constructor
    · rintro ⟨t, rfl, hbuffer⟩
      exact hbuffer
    · intro hbuffer
      cases result with
      | none => exact absurd hbuffer (hnot rest)
      | some t => exact ⟨t, rfl, hbuffer⟩

theorem inverts_read : MethodType.read.Inverts render := by
  intro buffer t rest
  have hrender : t.render ++ rest
      = '(' :: (t.parameters.flatMap FieldType.render ++ [')'] ++ (renderResult t.result ++ rest)) := by
    simp [render]
  rw [hrender]
  cases buffer with
  | nil => simp [MethodType.read]
  | cons c tail =>
      rw [MethodType.read]
      split
      · next hc =>
        rw [hc, List.cons.injEq, eq_self, true_and]
        have hparameters := inverts_readParameters tail
        split
        · next cause after hread =>
          constructor
          · intro h
            cases h
          · intro htail
            rw [(hparameters _ _).mpr htail] at hread
            cases hread
        · next parameters after hread =>
          rw [Reading.map_eq_ok_iff]
          constructor
          · rintro ⟨result, hresult, rfl⟩
            rw [(inverts_readResult _ _ _).mp hresult] at hread
            exact (hparameters _ _).mp hread
          · intro htail
            rw [(hparameters _ _).mpr htail] at hread
            cases hread
            exact ⟨t.result, (inverts_readResult _ _ _).mpr rfl, rfl⟩
      · next hc => simp [hc]

end MethodType

end ClassGraft
