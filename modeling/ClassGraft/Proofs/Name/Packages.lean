import ClassGraft.Name.Class

/-!
# Packages and simple names

A class name is checked in the pieces between all of its slashes, and it is taken apart at its
last slash alone. Both say the same: a class name is a simple name that stands for itself, or
the name of a package, a slash and a simple name. The package is named by the rule for classes
and the simple name by the rule for members.

The main statement says that taking apart and putting together undo each other, that the cut
never falls inside a character, and that two classes have the same package part exactly if the
pieces in front of their simple names are the same.
-/

namespace ClassGraft

/-! ## The rule for classes at a slash -/

/-- The empty text has an empty piece, so its pieces alone refuse it. -/
theorem isClassName_iff_forall {t : Text} :
    IsClassName t ↔ ∀ part ∈ Text.splitOn '/' t, IsMemberName part := by
  constructor
  · exact And.right
  · intro h
    refine ⟨?_, h⟩
    rintro rfl
    exact (h [] List.mem_cons_self).1 rfl

/-- Without a slash the rule for classes is the rule for members. -/
theorem isClassName_iff_of_not_mem {t : Text} (h : '/' ∉ t) :
    IsClassName t ↔ IsMemberName t := by
  rw [isClassName_iff_forall, Text.splitOn_of_not_mem h, List.forall_mem_singleton]

/-- A slash stands between two names of classes. -/
theorem isClassName_append_slash_iff {s t : Text} :
    IsClassName (s ++ '/' :: t) ↔ IsClassName s ∧ IsClassName t := by
  simp only [isClassName_iff_forall, Text.splitOn_append_cons, List.forall_mem_append]

theorem IsMemberName.slash_not_mem {t : Text} (h : IsMemberName t) : '/' ∉ t := by
  intro hmem
  exact absurd (h.2 '/' hmem) (by decide)

/-- Any member name is the name of a class in the default package. -/
theorem isClassName_of_isMemberName {t : Text} (h : IsMemberName t) : IsClassName t :=
  (isClassName_iff_of_not_mem h.slash_not_mem).mpr h

namespace ClassName

/-! ## Names put together -/

/-- The class of this name in the default package. -/
def ofMember (simple : MemberName) : ClassName :=
  ⟨simple.text, isClassName_of_isMemberName simple.valid⟩

/-- The class of this name in a package. -/
def inPackage (package : ClassName) (simple : MemberName) : ClassName where
  text := package.text ++ '/' :: simple.text
  valid := isClassName_append_slash_iff.mpr
    ⟨package.valid, isClassName_of_isMemberName simple.valid⟩

variable {m n package : ClassName} {simple : MemberName}

@[simp] theorem packagePart_ofMember : (ofMember simple).packagePart = [] :=
  Text.throughLast_of_not_mem simple.valid.slash_not_mem

@[simp] theorem packagePart_inPackage :
    (inPackage package simple).packagePart = package.text ++ ['/'] := by
  have htext : (inPackage package simple).text = (package.text ++ ['/']) ++ simple.text := by
    simp [inPackage]
  rw [packagePart, htext, Text.throughLast_append _ simple.valid.slash_not_mem,
    Text.throughLast_concat]

/-- The simple name is what is behind the package part. -/
theorem simpleName_of_text_eq {front last : Text} (h : n.text = front ++ last)
    (hfront : n.packagePart = front) : n.simpleName = last := by
  have happend := n.packagePart_append_simpleName
  rw [h, hfront] at happend
  exact List.append_cancel_left happend

@[simp] theorem simpleName_ofMember : (ofMember simple).simpleName = simple.text :=
  simpleName_of_text_eq (List.nil_append _).symm packagePart_ofMember

@[simp] theorem simpleName_inPackage : (inPackage package simple).simpleName = simple.text :=
  simpleName_of_text_eq (by simp [inPackage]) packagePart_inPackage

/-! ## Names taken apart -/

/-- Every class is in the default package, or in a package that has a name. -/
theorem eq_ofMember_or_eq_inPackage (n : ClassName) :
    (∃ simple, n = ofMember simple) ∨ ∃ package simple, n = inPackage package simple := by
  have hslash : '/' ∉ n.simpleName := Text.not_mem_afterLast '/' n.text
  have happend := n.packagePart_append_simpleName
  rcases Text.throughLast_cases '/' n.text with hnone | ⟨front, hfront⟩
  · have htext : n.simpleName = n.text := by rwa [packagePart, hnone] at happend
    have hvalid : IsMemberName n.text :=
      (isClassName_iff_of_not_mem (htext ▸ hslash)).mp n.valid
    exact Or.inl ⟨⟨n.text, hvalid⟩, text_injective rfl⟩
  · have htext : front ++ '/' :: n.simpleName = n.text := by
      rw [packagePart, hfront] at happend
      simpa using happend
    obtain ⟨hpackage, hsimple⟩ := isClassName_append_slash_iff.mp (htext ▸ n.valid)
    exact Or.inr ⟨⟨front, hpackage⟩,
      ⟨n.simpleName, (isClassName_iff_of_not_mem hslash).mp hsimple⟩, text_injective htext.symm⟩

/-! ## Packages as pieces -/

/-- The packages around a class, outermost first: the pieces of its name but the last. -/
def packages (n : ClassName) : List Text := (Text.splitOn '/' n.text).dropLast

theorem splitOn_ofMember : Text.splitOn '/' (ofMember simple).text = [simple.text] :=
  Text.splitOn_of_not_mem simple.valid.slash_not_mem

theorem splitOn_inPackage :
    Text.splitOn '/' (inPackage package simple).text
      = Text.splitOn '/' package.text ++ [simple.text] := by
  rw [inPackage, Text.splitOn_append_cons, Text.splitOn_of_not_mem simple.valid.slash_not_mem]

@[simp] theorem packages_ofMember : (ofMember simple).packages = [] := by
  rw [packages, splitOn_ofMember]
  rfl

@[simp] theorem packages_inPackage :
    (inPackage package simple).packages = Text.splitOn '/' package.text := by
  rw [packages, splitOn_inPackage, List.dropLast_concat]

/-- The last piece is the simple name. -/
theorem splitOn_text (n : ClassName) :
    Text.splitOn '/' n.text = n.packages ++ [n.simpleName] := by
  rcases n.eq_ofMember_or_eq_inPackage with ⟨simple, rfl⟩ | ⟨package, simple, rfl⟩
  · rw [splitOn_ofMember, packages_ofMember, simpleName_ofMember, List.nil_append]
  · rw [splitOn_inPackage, packages_inPackage, simpleName_inPackage]

/-- Classes have the same package part exactly if they are in the same packages. -/
theorem packagePart_eq_iff : m.packagePart = n.packagePart ↔ m.packages = n.packages := by
  have hpieces : ∀ t : Text, Text.splitOn '/' t ≠ [] := Text.splitWhere_ne_nil _
  rcases m.eq_ofMember_or_eq_inPackage with ⟨s, rfl⟩ | ⟨p, s, rfl⟩
  · rcases n.eq_ofMember_or_eq_inPackage with ⟨t, rfl⟩ | ⟨q, t, rfl⟩
    · simp
    · simp [(hpieces q.text).symm]
  · rcases n.eq_ofMember_or_eq_inPackage with ⟨t, rfl⟩ | ⟨q, t, rfl⟩
    · simp [hpieces]
    · rw [packagePart_inPackage, packagePart_inPackage, packages_inPackage, packages_inPackage,
        Text.splitOn_inj, List.append_left_inj]

/-! ## Both together -/

/-- Class names come apart and go together without loss. Every text that is accepted is its
package part and its simple name; these are its pieces and meet between two characters. The
simple name can name a member, and the package part is empty or the name of a class with a slash
behind it. Conversely, such a name, a slash and the name of a member are accepted, and come apart
there. So the package part tells the packages of a class, and nothing else. -/
theorem splits_and_joins :
    (∀ (t : Text) (n : ClassName), ofText t = .ok n →
      n.packagePart ++ n.simpleName = t ∧
        (∃ simple : MemberName, n.simpleName = simple.text) ∧
        (n.packagePart = [] ∨ ∃ package : ClassName, n.packagePart = package.text ++ ['/']) ∧
        Text.splitOn '/' t = n.packages ++ [n.simpleName] ∧
        Text.dropBytes? (Text.utf8Length n.packagePart) t = some n.simpleName) ∧
      (∀ (package : ClassName) (simple : MemberName), ∃ n,
        ofText (package.text ++ '/' :: simple.text) = .ok n ∧
          n.packagePart = package.text ++ ['/'] ∧ n.simpleName = simple.text) ∧
      ∀ m n : ClassName, m.packagePart = n.packagePart ↔ m.packages = n.packages := by
  refine ⟨?_, ?_, fun _ _ => packagePart_eq_iff⟩
  · intro t n hread
    obtain rfl : t = n.text := ofText_eq_ok_iff.mp hread
    have happend := n.packagePart_append_simpleName
    have hcut := Text.dropBytes?_utf8Length n.packagePart n.simpleName
    rw [happend] at hcut
    have hparts : (∃ simple : MemberName, n.simpleName = simple.text) ∧
        (n.packagePart = [] ∨ ∃ package : ClassName, n.packagePart = package.text ++ ['/']) := by
      rcases n.eq_ofMember_or_eq_inPackage with ⟨simple, rfl⟩ | ⟨package, simple, rfl⟩
      · exact ⟨⟨simple, simpleName_ofMember⟩, Or.inl packagePart_ofMember⟩
      · exact ⟨⟨simple, simpleName_inPackage⟩, Or.inr ⟨package, packagePart_inPackage⟩⟩
    exact ⟨happend, hparts.1, hparts.2, n.splitOn_text, hcut⟩
  · intro package simple
    exact ⟨inPackage package simple, ofText_eq_ok_iff.mpr rfl, packagePart_inPackage,
      simpleName_inPackage⟩

/-- A class in a package whose name has characters of two bytes. -/
theorem splits_and_joins_umlauts :
    let t := Text.ofString "net/größe/Zähler"
    let n := literal "net/größe/Zähler"
    ofText t = .ok n ∧ n.packagePart = Text.ofString "net/größe/" ∧
      n.packagePart ++ n.simpleName = t ∧ Text.utf8Length n.packagePart = 12 ∧
      Text.dropBytes? 12 t = some n.simpleName := by
  intro t n
  have hread : ofText t = .ok n := ofText_eq_ok_iff.mpr rfl
  obtain ⟨happend, -, -, -, hcut⟩ := splits_and_joins.1 t n hread
  exact ⟨hread, by decide, happend, by decide, hcut⟩

end ClassName

end ClassGraft
