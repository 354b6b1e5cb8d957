import ClassGraft.Proofs.Descriptor.Classes
import ClassGraft.Proofs.Descriptor.Readers

/-!
# Descriptors read back as what they describe

`Descriptor` puts the four things that descriptors are written for next to each other,
so that their readers share one statement. Types over texts stand for what one may want
to write: their classes are any texts, and `spell` writes them as they are. Reading a
buffer then gives a type back exactly when the buffer starts with its spelling and each
of its class names obeys the rule for names. Nothing else is taken, so descriptors
written one after the other are read back in their order.
-/

namespace ClassGraft

/-! ## Spelling types whose classes are texts -/

/-- The descriptor of a reference type whose classes are texts. -/
def RefType.spell : RefType Text → Text
  | .object cls => 'L' :: cls ++ [';']
  | .objectArray extra cls => List.replicate (extra + 1) '[' ++ ('L' :: cls ++ [';'])
  | .primitiveArray extra element => List.replicate (extra + 1) '[' ++ [element.letter]

/-- The descriptor of a type whose classes are texts. -/
def FieldType.spell : FieldType Text → Text
  | .primitive type => [type.letter]
  | .ref type => type.spell

/-- The descriptor of a method whose classes are texts. -/
def MethodType.spell (t : MethodType Text) : Text :=
  '(' :: t.parameters.flatMap FieldType.spell ++ ')' :: t.result.elim ['V'] FieldType.spell

theorem RefType.spell_map_text (t : RefType ClassName) :
    (t.map ClassName.text).spell = t.render := by
  cases t <;> rfl

theorem FieldType.spell_map_text (t : FieldType ClassName) :
    (t.map ClassName.text).spell = t.render := by
  cases t with
  | primitive p => rfl
  | ref r => exact r.spell_map_text

theorem MethodType.spell_map_text (t : MethodType ClassName) :
    (t.map ClassName.text).spell = t.render := by
  have hparameters : (t.parameters.map (FieldType.map ClassName.text)).flatMap FieldType.spell
      = t.parameters.flatMap FieldType.render := by
    rw [List.flatMap_map]
    exact congrArg (List.flatMap · t.parameters) (funext FieldType.spell_map_text)
  have hresult : (t.result.map (FieldType.map ClassName.text)).elim ['V'] FieldType.spell
      = renderResult t.result := by
    cases t.result with
    | none => rfl
    | some result => exact result.spell_map_text
  rw [spell, map, hparameters, hresult, render]

/-! ## What descriptors are written for -/

/-- The kinds of descriptors. -/
inductive Descriptor.Kind where
  | cls
  | ref
  | field
  | method
  deriving DecidableEq

/-- What a descriptor is written for, over the classes `C`. -/
inductive Descriptor (C : Type) where
  /-- A class on its own. -/
  | cls (c : C)
  /-- A reference type. -/
  | ref (type : RefType C)
  /-- A type of variables. -/
  | field (type : FieldType C)
  /-- A type of methods. -/
  | method (type : MethodType C)
  deriving DecidableEq

namespace Descriptor

variable {C D : Type}

/-- Which of the readers a descriptor is for. -/
def kind : Descriptor C → Kind
  | .cls _ => .cls
  | .ref _ => .ref
  | .field _ => .field
  | .method _ => .method

/-- The classes that a descriptor names. -/
def classes : Descriptor C → List C
  | .cls c => [c]
  | .ref type => type.classes
  | .field type => type.classes
  | .method type => type.classes

/-- The same descriptor over other classes. -/
def map (f : C → D) : Descriptor C → Descriptor D
  | .cls c => .cls (f c)
  | .ref type => .ref (type.map f)
  | .field type => .field (type.map f)
  | .method type => .method (type.map f)

/-- What is written for checked class names. -/
def render : Descriptor ClassName → Text
  | .cls c => c.render
  | .ref type => type.render
  | .field type => type.render
  | .method type => type.render

/-- What is written when the classes are any texts. -/
def spell : Descriptor Text → Text
  | .cls c => 'L' :: c ++ [';']
  | .ref type => type.spell
  | .field type => type.spell
  | .method type => type.spell

theorem kind_map (f : C → D) (d : Descriptor C) : (d.map f).kind = d.kind := by
  cases d <;> rfl

theorem spell_map_text (d : Descriptor ClassName) :
    (d.map ClassName.text).spell = d.render := by
  cases d with
  | cls c => rfl
  | ref t => exact t.spell_map_text
  | field t => exact t.spell_map_text
  | method t => exact t.spell_map_text

/-- A descriptor comes from one over other classes when each class it names does. -/
theorem exists_map_eq_iff {f : C → D} {t : Descriptor D} :
    (∃ d : Descriptor C, d.map f = t) ↔ ∀ c ∈ t.classes, ∃ n, f n = c := by
  constructor
  · rintro ⟨d, rfl⟩
    cases d with
    | cls c => simp [map, classes]
    | ref t => exact RefType.exists_map_eq_iff.mp ⟨t, rfl⟩
    | field t => exact FieldType.exists_map_eq_iff.mp ⟨t, rfl⟩
    | method t => exact MethodType.exists_map_eq_iff.mp ⟨t, rfl⟩
  · intro h
    cases t with
    | cls c =>
        obtain ⟨n, rfl⟩ := h c (by simp [classes])
        exact ⟨.cls n, rfl⟩
    | ref t =>
        obtain ⟨d, rfl⟩ := RefType.exists_map_eq_iff.mpr h
        exact ⟨.ref d, rfl⟩
    | field t =>
        obtain ⟨d, rfl⟩ := FieldType.exists_map_eq_iff.mpr h
        exact ⟨.field d, rfl⟩
    | method t =>
        obtain ⟨d, rfl⟩ := MethodType.exists_map_eq_iff.mpr h
        exact ⟨.method d, rfl⟩

/-! ## Reading -/

/-- Takes a descriptor of the given kind off the buffer. -/
def Kind.read : Kind → Reader (Descriptor ClassName)
  | .cls => fun buffer => (ClassName.read buffer).map .cls
  | .ref => fun buffer => (RefType.read buffer).map .ref
  | .field => fun buffer => (FieldType.read buffer).map .field
  | .method => fun buffer => (MethodType.read buffer).map .method

/-- What a whole text describes as a descriptor of the given kind. -/
def Kind.parse : Kind → Text → Except DescriptorError (Descriptor ClassName)
  | .cls => fun source => (ClassName.parse source).map .cls
  | .ref => fun source => (RefType.parse source).map .ref
  | .field => fun source => (FieldType.parse source).map .field
  | .method => fun source => (MethodType.parse source).map .method

/-- Takes descriptors of the given kinds off the buffer, one after the other. -/
def readEach : List Kind → Reader (List (Descriptor ClassName))
  | [], buffer => .ok [] buffer
  | kind :: kinds, buffer =>
    match kind.read buffer with
    | .error cause rest => .error cause rest
    | .ok d rest => (readEach kinds rest).map (d :: ·)

/-- A reader succeeds on descriptors of its kind, and takes exactly what is written. -/
theorem read_eq_ok_iff {k : Kind} {buffer rest : Text} {d : Descriptor ClassName} :
    k.read buffer = .ok d rest ↔ d.kind = k ∧ buffer = d.render ++ rest := by
  cases k with
  | cls =>
      rw [Kind.read, ClassName.inverts_read.map_eq_ok_iff]
      cases d <;> simp [kind, render]
  | ref =>
      rw [Kind.read, RefType.inverts_read.map_eq_ok_iff]
      cases d <;> simp [kind, render]
  | field =>
      rw [Kind.read, FieldType.inverts_read.map_eq_ok_iff]
      cases d <;> simp [kind, render]
  | method =>
      rw [Kind.read, MethodType.inverts_read.map_eq_ok_iff]
      cases d <;> simp [kind, render]

/-- What is read from a whole text may be packed up before the text is checked for a
rest. -/
theorem map_readAll {α β : Type} (f : α → β) (read : Reader α) (source : Text) :
    (readAll read source).map f = readAll (fun buffer => (read buffer).map f) source := by
  simp only [readAll]
  rcases read source with ⟨value, _ | ⟨c, rest⟩⟩ | ⟨cause, rest⟩ <;> rfl

theorem Kind.parse_eq_readAll (k : Kind) (source : Text) :
    k.parse source = readAll k.read source := by
  cases k <;> exact map_readAll _ _ _

/-- A whole text is the descriptor of exactly what it is written for. -/
theorem parse_eq_ok_iff {k : Kind} {source : Text} {d : Descriptor ClassName} :
    k.parse source = .ok d ↔ d.kind = k ∧ source = d.render := by
  rw [Kind.parse_eq_readAll, readAll_eq_ok_iff, read_eq_ok_iff, List.append_nil]

/-- Descriptors in a row are read back in their order. -/
theorem readEach_eq_ok_iff {kinds : List Kind} {buffer rest : Text}
    {ds : List (Descriptor ClassName)} :
    readEach kinds buffer = .ok ds rest ↔
      ds.map kind = kinds ∧ buffer = ds.flatMap render ++ rest := by
  induction kinds generalizing buffer ds with
  | nil =>
      simp only [readEach, Reading.ok.injEq, List.map_eq_nil_iff]
      constructor
      · rintro ⟨rfl, rfl⟩
        exact ⟨rfl, rfl⟩
      · rintro ⟨rfl, hbuffer⟩
        exact ⟨rfl, hbuffer⟩
  | cons k ks ih =>
      constructor
      · intro h
        rw [readEach] at h
        split at h
        · cases h
        · next d after hread =>
          obtain ⟨ds', hrest, rfl⟩ := Reading.map_eq_ok h
          obtain ⟨rfl, rfl⟩ := read_eq_ok_iff.mp hread
          obtain ⟨rfl, rfl⟩ := ih.mp hrest
          simp
      · rintro ⟨hkinds, rfl⟩
        obtain ⟨d, ds', rfl, rfl, hks⟩ := List.map_eq_cons_iff.mp hkinds
        have hread : d.kind.read ((d :: ds').flatMap render ++ rest)
            = .ok d (ds'.flatMap render ++ rest) :=
          read_eq_ok_iff.mpr ⟨rfl, by simp⟩
        simp only [readEach, hread, ih.mpr ⟨hks, rfl⟩, Reading.map]

/-- Reading over any class names: a type is given back exactly when it is spelled at the
start of the buffer and every class name in it obeys the rule. -/
theorem read_map_text_iff {k : Kind} {buffer rest : Text} {t : Descriptor Text} :
    (∃ d, k.read buffer = .ok d rest ∧ d.map ClassName.text = t) ↔
      t.kind = k ∧ buffer = t.spell ++ rest ∧
        ∀ c ∈ t.classes, ∃ n, ClassName.ofText c = .ok n := by
  have hchecked : (∀ c ∈ t.classes, ∃ n, ClassName.ofText c = .ok n) ↔
      ∃ d : Descriptor ClassName, d.map ClassName.text = t := by
    rw [exists_map_eq_iff]
    simp only [ClassName.ofText_eq_ok_iff]
    exact forall₂_congr fun c _ => exists_congr fun n => eq_comm
  rw [hchecked]
  constructor
  · rintro ⟨d, hread, rfl⟩
    obtain ⟨hkind, hbuffer⟩ := read_eq_ok_iff.mp hread
    exact ⟨by rw [kind_map, hkind], by rw [spell_map_text, hbuffer], d, rfl⟩
  · rintro ⟨hkind, hbuffer, d, rfl⟩
    rw [kind_map] at hkind
    rw [spell_map_text] at hbuffer
    exact ⟨d, read_eq_ok_iff.mpr ⟨hkind, hbuffer⟩, rfl⟩

/-- Readers and renderers of descriptors are inverse to each other. On any buffer a
reader gives a type back exactly when the buffer starts with what is written for it and
its class names obey their rule, and it leaves what follows; whole texts are the case
without a rest; and a row of descriptors is read back in its order. -/
theorem readers_invert_renderers :
    (∀ (k : Kind) (buffer rest : Text) (t : Descriptor Text),
      (∃ d, k.read buffer = .ok d rest ∧ d.map ClassName.text = t) ↔
        t.kind = k ∧ buffer = t.spell ++ rest ∧
          ∀ c ∈ t.classes, ∃ n, ClassName.ofText c = .ok n) ∧
    (∀ d : Descriptor ClassName, (d.map ClassName.text).spell = d.render) ∧
    (∀ (k : Kind) (source : Text) (d : Descriptor ClassName),
      k.parse source = .ok d ↔ d.kind = k ∧ source = d.render) ∧
    ∀ (kinds : List Kind) (buffer rest : Text) (ds : List (Descriptor ClassName)),
      readEach kinds buffer = .ok ds rest ↔
        ds.map kind = kinds ∧ buffer = ds.flatMap render ++ rest :=
  ⟨fun _ _ _ _ => read_map_text_iff, spell_map_text, fun _ _ _ => parse_eq_ok_iff,
    fun _ _ _ _ => readEach_eq_ok_iff⟩

example : readEach [.field, .cls] "[ILa/B;V".toList
    = .ok [.field (.ref (.primitiveArray 0 .int)), .cls (.literal "a/B")] ['V'] := by
  decide

end Descriptor

end ClassGraft
