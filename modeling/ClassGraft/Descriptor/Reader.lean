import ClassGraft.Descriptor.Basic
import ClassGraft.Descriptor.Error

/-!
# Reading descriptors from a shared buffer

A reader takes a descriptor off the front of a text. The rest of the text is
part of the answer whether the reading succeeds or fails, so several readers can
be run in turn on one buffer. What each reader has taken when it fails is a rule
of its own:

* a primitive takes the offending character;
* a class takes the character that is not its first letter, and a complete name
  through its semicolon before the name is looked at;
* a reference or a field type only looks at a character that starts neither;
* a method takes the character that is not its opening parenthesis.

Every success takes at least one character, which is why the loop over the
parameters ends.
-/

namespace ClassGraft

/-- The outcome of a reading: a value or a cause, and the rest of the buffer. -/
inductive Reading (α : Type) where
  | ok (value : α) (rest : Text)
  | error (cause : DescriptorError) (rest : Text)
  deriving DecidableEq

/-- Readers on a buffer of characters. -/
abbrev Reader (α : Type) := Text → Reading α

/-- Apply a function to the value read. -/
def Reading.map {α β : Type} (f : α → β) : Reading α → Reading β
  | .ok value rest => .ok (f value) rest
  | .error cause rest => .error cause rest

/-- Takes a primitive type off the buffer. -/
def Primitive.read : Reader Primitive
  | [] => .error .missingPrimitive []
  | c :: rest =>
    match Primitive.ofLetter? c with
    | some p => .ok p rest
    | none => .error (.invalidPrimitive c) rest

/-- Takes a class, written `Lname;`, off the buffer. -/
def ClassName.read : Reader ClassName
  | [] => .error .expectedClass []
  | c :: rest =>
    if c = 'L' then
      match rest.dropWhile (· != ';') with
      | [] => .error (.unterminatedClass rest) []
      | _ :: after =>
        -- The semicolon is gone before the name is looked at.
        match ClassName.ofText (rest.takeWhile (· != ';')) with
        | .ok name => .ok name after
        | .error fault => .error (.badName fault) after
    else .error .expectedClass rest

/-- Takes the element of an array with `extra + 1` dimensions off the buffer. -/
def RefType.readElement (extra : Nat) (buffer : Text) : Reading (RefType ClassName) :=
  match buffer with
  -- Only the letter of classes is looked for: anything else is read as a primitive.
  | 'L' :: _ => (ClassName.read buffer).map (.objectArray extra)
  | _ => (Primitive.read buffer).map (.primitiveArray extra)

/-- Takes a reference type off the buffer. -/
def RefType.read : Reader (RefType ClassName)
  | [] => .error .missingType []
  | c :: rest =>
    if c = 'L' then (ClassName.read (c :: rest)).map .object
    else if c = '[' then
      RefType.readElement (rest.takeWhile (· == '[')).length (rest.dropWhile (· == '['))
    else .error (.invalidReference c) (c :: rest)

/-- Takes a type off the buffer. -/
def FieldType.read : Reader (FieldType ClassName)
  | [] => .error .missingType []
  | c :: rest =>
    match Primitive.ofLetter? c with
    | some p => .ok (.primitive p) rest
    | none =>
      if c = 'L' ∨ c = '[' then (RefType.read (c :: rest)).map .ref
      else .error (.invalidField c) (c :: rest)

/-! ## Every success takes something -/

theorem Reading.map_eq_ok {α β : Type} {f : α → β} {r : Reading α} {b : β} {rest : Text}
    (h : r.map f = .ok b rest) : ∃ a, r = .ok a rest ∧ f a = b := by
  cases r with
  | ok a s =>
    simp only [Reading.map, Reading.ok.injEq] at h
    exact ⟨a, by rw [h.2], h.1⟩
  | error e s => simp [Reading.map] at h

theorem Primitive.length_of_read {buffer rest : Text} {p : Primitive}
    (h : Primitive.read buffer = .ok p rest) : rest.length < buffer.length := by
  cases buffer with
  | nil => simp [Primitive.read] at h
  | cons c tail =>
    rw [Primitive.read] at h
    split at h
    · simp only [Reading.ok.injEq] at h
      simp [h.2]
    · simp at h

theorem ClassName.length_of_read {buffer rest : Text} {n : ClassName}
    (h : ClassName.read buffer = .ok n rest) : rest.length < buffer.length := by
  cases buffer with
  | nil => simp [ClassName.read] at h
  | cons c tail =>
    rw [ClassName.read] at h
    split at h
    · split at h
      · simp at h
      · next after heq =>
        split at h
        · simp only [Reading.ok.injEq] at h
          -- What is left starts behind the semicolon, so the semicolon is what was taken.
          have hle : (tail.dropWhile (· != ';')).length ≤ tail.length :=
            (List.dropWhile_suffix _).length_le
          rw [heq, h.2] at hle
          simp only [List.length_cons] at hle ⊢
          omega
        · simp at h
    · simp at h

theorem RefType.length_of_readElement {extra : Nat} {buffer rest : Text}
    {t : RefType ClassName} (h : RefType.readElement extra buffer = .ok t rest) :
    rest.length < buffer.length := by
  unfold RefType.readElement at h
  split at h
  · obtain ⟨_, hread, _⟩ := Reading.map_eq_ok h
    exact ClassName.length_of_read hread
  · obtain ⟨_, hread, _⟩ := Reading.map_eq_ok h
    exact Primitive.length_of_read hread

theorem RefType.length_of_read {buffer rest : Text} {t : RefType ClassName}
    (h : RefType.read buffer = .ok t rest) : rest.length < buffer.length := by
  cases buffer with
  | nil => simp [RefType.read] at h
  | cons c tail =>
    rw [RefType.read] at h
    split at h
    · obtain ⟨_, hread, _⟩ := Reading.map_eq_ok h
      exact ClassName.length_of_read hread
    · split at h
      · have := RefType.length_of_readElement h
        have hle : (tail.dropWhile (· == '[')).length ≤ tail.length :=
          (List.dropWhile_suffix _).length_le
        simp only [List.length_cons]
        omega
      · simp at h

theorem FieldType.length_of_read {buffer rest : Text} {t : FieldType ClassName}
    (h : FieldType.read buffer = .ok t rest) : rest.length < buffer.length := by
  cases buffer with
  | nil => simp [FieldType.read] at h
  | cons c tail =>
    rw [FieldType.read] at h
    split at h
    · simp only [Reading.ok.injEq] at h
      simp [h.2]
    · split at h
      · obtain ⟨_, hread, _⟩ := Reading.map_eq_ok h
        exact RefType.length_of_read hread
      · simp at h

/-! ## Methods -/

/-- Takes the parameters of a method and the parenthesis that closes them off
the buffer. When the text ends before that parenthesis, a parameter is missing. -/
def MethodType.readParameters (buffer : Text) : Reading (List (FieldType ClassName)) :=
  match buffer with
  | ')' :: rest => .ok [] rest
  | buffer =>
    match h : FieldType.read buffer with
    | .error cause rest => .error cause rest
    | .ok t rest =>
      have : rest.length < buffer.length := FieldType.length_of_read h
      (MethodType.readParameters rest).map (t :: ·)
termination_by buffer.length

/-- Takes the result of a method off the buffer; `V` stands for none. -/
def MethodType.readResult : Reader (Option (FieldType ClassName))
  | 'V' :: rest => .ok none rest
  | buffer => (FieldType.read buffer).map some

/-- Takes a method type off the buffer. -/
def MethodType.read : Reader (MethodType ClassName)
  | [] => .error .expectedParameters []
  | c :: rest =>
    if c = '(' then
      match MethodType.readParameters rest with
      | .error cause rest => .error cause rest
      | .ok parameters rest => (MethodType.readResult rest).map (⟨parameters, ·⟩)
    else .error .expectedParameters rest

/-! ## Whole texts -/

/-- Reads a text that must be used up. -/
def readAll {α : Type} (read : Reader α) (source : Text) : Except DescriptorError α :=
  match read source with
  | .error cause _ => .error cause
  | .ok value [] => .ok value
  | .ok _ (c :: _) => .error (.leftover c source)

/-- A whole text is read exactly when a reading succeeds and leaves nothing. -/
theorem readAll_eq_ok_iff {α : Type} {read : Reader α} {source : Text} {value : α} :
    readAll read source = .ok value ↔ read source = .ok value [] := by
  unfold readAll
  split
  · next h => simp [h]
  · next h => simp [h]
  · next h => simp [h]

/-- The primitive type that a whole text describes. -/
def Primitive.parse (source : Text) : Except DescriptorError Primitive :=
  readAll Primitive.read source

/-- The class that a whole text describes. -/
def ClassName.parse (source : Text) : Except DescriptorError ClassName :=
  readAll ClassName.read source

/-- The reference type that a whole text describes. -/
def RefType.parse (source : Text) : Except DescriptorError (RefType ClassName) :=
  readAll RefType.read source

/-- The type that a whole text describes. -/
def FieldType.parse (source : Text) : Except DescriptorError (FieldType ClassName) :=
  readAll FieldType.read source

/-- The method type that a whole text describes. -/
def MethodType.parse (source : Text) : Except DescriptorError (MethodType ClassName) :=
  readAll MethodType.read source

end ClassGraft
