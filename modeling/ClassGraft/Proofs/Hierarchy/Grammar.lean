import Mathlib.Data.List.Induction
import ClassGraft.Hierarchy.Listing
import ClassGraft.Proofs.FirstSeen
import ClassGraft.Proofs.Runs

/-!
# The grammar of a line

The words of a line are read one by one, with a draft that remembers which clause is open.
Here the same lines are described as a whole: a header, then phrases, each a keyword and the
names under it. `Declaration` is such a line taken apart, `Declaration.IsWellFormed` says
what it has to satisfy, and `Declaration.entry` what it declares.

A well-formed declaration grows word by word, and each word that it can grow by is taken
into its draft. So reading succeeds on exactly the words of well-formed declarations, with
their entries, and a line that is not understood is understood up to the word at fault.
-/

namespace ClassGraft.Listing

/-! ## Keywords -/

/-- The words that begin a clause. -/
inductive Keyword where
  | extending
  | implementing

namespace Keyword

/-- The word itself. -/
def word : Keyword → Text
  | extending => Text.ofString "extends"
  | implementing => Text.ofString "implements"

/-- Can the keyword stand in a line of the kind? Interfaces implement nothing. -/
def StandsIn (isInterface : Bool) : Keyword → Prop
  | extending => True
  | implementing => isInterface = false

/-- What the names under the keyword are for. -/
def clause (isInterface : Bool) : Keyword → Clause
  -- An interface extends interfaces; its superclass is the root in any case.
  | extending => if isInterface then .interfaces else .superclass
  | implementing => .interfaces

theorem clause_ne_opening (isInterface : Bool) (k : Keyword) :
    k.clause isInterface ≠ .opening := by
  cases k <;> cases isInterface <;> simp [clause]

end Keyword

/-- Is the word a keyword in a line of the kind? -/
def IsKeyword (isInterface : Bool) (word : Text) : Prop :=
  ∃ k : Keyword, k.StandsIn isInterface ∧ k.word = word

theorem clauseOf?_word {isInterface : Bool} {k : Keyword} (h : k.StandsIn isInterface) :
    clauseOf? isInterface k.word = some (k.clause isInterface) := by
  cases k with
  | extending => exact if_pos rfl
  | implementing =>
      obtain rfl : isInterface = false := h
      decide

theorem clauseOf?_eq_none_iff {isInterface : Bool} {word : Text} :
    clauseOf? isInterface word = none ↔ ¬ IsKeyword isInterface word := by
  constructor
  · rintro hnone ⟨k, hstands, rfl⟩
    rw [clauseOf?_word hstands] at hnone
    cases hnone
  · intro hnot
    have hextends : word ≠ Text.ofString "extends" := fun heq =>
      hnot ⟨.extending, trivial, heq.symm⟩
    have himplements : ¬ (word = Text.ofString "implements" ∧ isInterface = false) :=
      fun ⟨heq, hkind⟩ => hnot ⟨.implementing, hkind, heq.symm⟩
    rw [clauseOf?, if_neg hextends, if_neg himplements]

/-! ## Declarations -/

/-- A keyword and the names under it. -/
structure Phrase where
  keyword : Keyword
  names : List ClassName

/-- The words of a phrase. -/
def Phrase.words (p : Phrase) : List Text := p.keyword.word :: p.names.map ClassName.text

/-- The names of a phrase that are for a purpose. -/
def Phrase.namesFor (isInterface : Bool) (c : Clause) (p : Phrase) : List ClassName :=
  if p.keyword.clause isInterface = c then p.names else []

/-- The words in front of the kind. -/
def mixinWords (isMixin : Bool) : List Text := if isMixin then [Text.ofString "mixin"] else []

/-- The word for the kind. -/
def kindWord (isInterface : Bool) : Text :=
  if isInterface then Text.ofString "interface" else Text.ofString "class"

/-- A line taken apart. -/
structure Declaration where
  /-- Does the line begin with `mixin`? -/
  isMixin : Bool
  /-- Does it go on with `interface`, or else with `class`? -/
  isInterface : Bool
  name : ClassName
  phrases : List Phrase

namespace Declaration

/-- The words after the name. -/
def clauseWords (d : Declaration) : List Text := d.phrases.flatMap Phrase.words

/-- The words of the line. -/
def words (d : Declaration) : List Text :=
  mixinWords d.isMixin ++ kindWord d.isInterface :: d.name.text :: d.clauseWords

/-- The names in the line that are for a purpose. -/
def namesFor (d : Declaration) (c : Clause) : List ClassName :=
  d.phrases.flatMap (Phrase.namesFor d.isInterface c)

/-- What a line has to satisfy. -/
structure IsWellFormed (d : Declaration) : Prop where
  /-- Its keywords are those of its kind. -/
  standsIn : ∀ p ∈ d.phrases, p.keyword.StandsIn d.isInterface
  /-- No name in a clause could be taken for a keyword. -/
  isNoKeyword : ∀ p ∈ d.phrases, ∀ n ∈ p.names, ¬ IsKeyword d.isInterface n.text
  /-- A superclass is named at most once. -/
  oneSuperclass : (d.namesFor .superclass).length ≤ 1

/-- What the line declares. -/
def entry (d : Declaration) : ClassEntry where
  name := d.name
  superclass := some ((d.namesFor .superclass).head?.getD .object)
  interfaces := (d.namesFor .interfaces).eraseDups
  isInterface := d.isInterface
  isMixin := d.isMixin

/-- The clause that is open at the end of the line. -/
def lastClause (d : Declaration) : Clause :=
  (d.phrases.getLast?.map fun p => p.keyword.clause d.isInterface).getD .opening

/-- The line as it is remembered while more words are read. -/
def draft (d : Declaration) : Draft where
  entry := d.entry
  clause := d.lastClause
  namedSuperclass := !(d.namesFor .superclass).isEmpty

/-- The line up to its name. -/
def bare (d : Declaration) : Declaration := { d with phrases := [] }

/-- The line with one more phrase. -/
def plus (d : Declaration) (p : Phrase) : Declaration := { d with phrases := d.phrases ++ [p] }

variable (d : Declaration) (p : Phrase)

theorem isWellFormed_bare : d.bare.IsWellFormed :=
  ⟨by simp [bare], by simp [bare], by simp [bare, namesFor]⟩

@[simp] theorem name_plus : (d.plus p).name = d.name := rfl

@[simp] theorem isInterface_plus : (d.plus p).isInterface = d.isInterface := rfl

@[simp] theorem isMixin_plus : (d.plus p).isMixin = d.isMixin := rfl

theorem clauseWords_plus : (d.plus p).clauseWords = d.clauseWords ++ p.words := by
  simp [clauseWords, plus]

theorem namesFor_plus (c : Clause) :
    (d.plus p).namesFor c = d.namesFor c ++ p.namesFor d.isInterface c := by
  simp [namesFor, plus]

theorem lastClause_plus : (d.plus p).lastClause = p.keyword.clause d.isInterface := by
  simp [lastClause, plus]

/-- A phrase fits a well-formed line if its words are of the right kind and it names no
second superclass. -/
theorem isWellFormed_plus_iff : (d.plus p).IsWellFormed ↔ d.IsWellFormed ∧
    p.keyword.StandsIn d.isInterface ∧ (∀ n ∈ p.names, ¬ IsKeyword d.isInterface n.text) ∧
      ((d.plus p).namesFor .superclass).length ≤ 1 := by
  constructor
  · intro h
    refine ⟨⟨fun q hq => h.standsIn q (by simp [plus, hq]),
      fun q hq => h.isNoKeyword q (by simp [plus, hq]), ?_⟩,
      h.standsIn p (by simp [plus]), h.isNoKeyword p (by simp [plus]), h.oneSuperclass⟩
    have hone := h.oneSuperclass
    rw [namesFor_plus, List.length_append] at hone
    omega
  · rintro ⟨hd, hstands, hnames, hone⟩
    refine ⟨fun q hq => ?_, fun q hq => ?_, hone⟩
    · rcases List.mem_append.mp hq with hq | hq
      · exact hd.standsIn q hq
      · obtain rfl := List.mem_singleton.mp hq
        exact hstands
    · rcases List.mem_append.mp hq with hq | hq
      · exact hd.isNoKeyword q hq
      · obtain rfl := List.mem_singleton.mp hq
        exact hnames

/-! ## Growing word by word -/

/-- A line, a word, and the line with that word at its end. -/
inductive Grows : Declaration → Text → Declaration → Prop
  /-- A keyword begins a phrase. -/
  | keyword {d : Declaration} {k : Keyword} (hk : k.StandsIn d.isInterface) :
      Grows d k.word (d.plus ⟨k, []⟩)
  /-- A name goes to the last phrase. -/
  | name {d : Declaration} {k : Keyword} {names : List ClassName} {n : ClassName}
      (hn : ¬ IsKeyword d.isInterface n.text)
      (hone : k.clause d.isInterface = .superclass →
        (d.plus ⟨k, names⟩).namesFor .superclass = []) :
      Grows (d.plus ⟨k, names⟩) n.text (d.plus ⟨k, names ++ [n]⟩)

/-- One more name in the last phrase is one more name for the purpose of the phrase. -/
theorem namesFor_plus_concat (k : Keyword) (names : List ClassName) (n : ClassName) (c : Clause) :
    (d.plus ⟨k, names ++ [n]⟩).namesFor c = (d.plus ⟨k, names⟩).namesFor c ++
      if k.clause d.isInterface = c then [n] else [] := by
  rw [namesFor_plus, namesFor_plus, List.append_assoc]
  unfold Phrase.namesFor
  split <;> simp

variable {d} {d' : Declaration} {word : Text}

theorem Grows.clauseWords (h : Grows d word d') : d'.clauseWords = d.clauseWords ++ [word] := by
  cases h with
  | keyword hk => rw [clauseWords_plus]; rfl
  | name hn hone => simp [clauseWords_plus, Phrase.words]

theorem Grows.bare (h : Grows d word d') : d'.bare = d.bare := by
  cases h <;> rfl

/-- A line stays well-formed as it grows. -/
theorem Grows.isWellFormed (h : Grows d word d') (hd : d.IsWellFormed) : d'.IsWellFormed := by
  cases h with
  | keyword hk =>
      refine d.isWellFormed_plus_iff _ |>.mpr ⟨hd, hk, by simp, ?_⟩
      simpa [namesFor_plus, Phrase.namesFor] using hd.oneSuperclass
  | @name d k names n hn hone =>
      obtain ⟨hbefore, hstands, hnames, hcount⟩ := (isWellFormed_plus_iff _ _).mp hd
      refine (isWellFormed_plus_iff _ _).mpr ⟨hbefore, hstands, ?_, ?_⟩
      · intro m hm
        rcases List.mem_append.mp hm with hm | hm
        · exact hnames m hm
        · obtain rfl := List.mem_singleton.mp hm
          exact hn
      · rw [namesFor_plus_concat]
        split
        · next hclause => simp [hone hclause]
        · simpa using hcount

/-- Whatever holds of a bare line and is kept as lines grow, holds of every well-formed
line. -/
theorem IsWellFormed.induction {P : Declaration → Prop} (hd : d.IsWellFormed)
    (hbare : P d.bare)
    (hgrows : ∀ {e : Declaration} {word : Text} {e' : Declaration},
      e.IsWellFormed → Grows e word e' → P e → P e') : P d := by
  -- Lines grow at their end, so the induction takes phrases, and names, from the end.
  obtain ⟨isMixin, isInterface, name, phrases⟩ := d
  induction phrases using List.reverseRecOn with
  | nil => exact hbare
  | append_singleton phrases p ih =>
      obtain ⟨k, names⟩ := p
      let e : Declaration := ⟨isMixin, isInterface, name, phrases⟩
      -- The last phrase grows name by name.
      suffices hlast : ∀ names, (e.plus ⟨k, names⟩).IsWellFormed → P (e.plus ⟨k, names⟩) from
        hlast names hd
      intro names
      induction names using List.reverseRecOn with
      | nil =>
          intro hwf
          obtain ⟨he, hstands, -, -⟩ := (isWellFormed_plus_iff _ _).mp hwf
          exact hgrows he (.keyword hstands) (ih he hbare)
      | append_singleton names n ihNames =>
          intro hwf
          obtain ⟨he, hstands, hnames, hcount⟩ := (isWellFormed_plus_iff _ _).mp hwf
          rw [namesFor_plus_concat, List.length_append] at hcount
          have hbefore : (e.plus ⟨k, names⟩).IsWellFormed :=
            (isWellFormed_plus_iff _ _).mpr ⟨he, hstands,
              fun m hm => hnames m (List.mem_append_left _ hm), by omega⟩
          refine hgrows hbefore (.name (hnames n (by simp)) ?_) (ihNames hbefore)
          intro hclause
          rw [if_pos hclause] at hcount
          exact List.eq_nil_of_length_eq_zero (by simpa using hcount)

/-! ## Reading word by word -/

section Name

variable {k : Keyword} (names : List ClassName) (n : ClassName)

/-- A name in a clause of interfaces is one more interface, unless it is there. -/
theorem addName_of_interfaces (hk : k.clause d.isInterface = .interfaces) :
    (d.plus ⟨k, names⟩).draft.addName n = .ok (d.plus ⟨k, names ++ [n]⟩).draft := by
  have hsuper : (d.plus ⟨k, names ++ [n]⟩).namesFor .superclass =
      (d.plus ⟨k, names⟩).namesFor .superclass := by simp [namesFor_plus_concat, hk]
  have hinterfaces : (d.plus ⟨k, names ++ [n]⟩).namesFor .interfaces =
      (d.plus ⟨k, names⟩).namesFor .interfaces ++ [n] := by simp [namesFor_plus_concat, hk]
  -- The entry lists each interface once, as the draft does.
  by_cases hn : n ∈ ((d.plus ⟨k, names⟩).namesFor .interfaces).eraseDups <;>
    simp [Draft.addName, draft, entry, lastClause_plus, hk, hsuper, hinterfaces,
      ClassEntry.addInterface, FirstSeen.eraseDups_concat, hn]

/-- The first name in a clause of superclasses is the superclass. -/
theorem addName_of_superclass (hk : k.clause d.isInterface = .superclass)
    (hnone : (d.plus ⟨k, names⟩).namesFor .superclass = []) :
    (d.plus ⟨k, names⟩).draft.addName n = .ok (d.plus ⟨k, names ++ [n]⟩).draft := by
  have hsuper : (d.plus ⟨k, names ++ [n]⟩).namesFor .superclass = [n] := by
    simp [namesFor_plus_concat, hk, hnone]
  have hinterfaces : (d.plus ⟨k, names ++ [n]⟩).namesFor .interfaces =
      (d.plus ⟨k, names⟩).namesFor .interfaces := by simp [namesFor_plus_concat, hk]
  simp [Draft.addName, draft, entry, lastClause_plus, hk, hnone, hsuper, hinterfaces]

/-- A second one is refused. -/
theorem addName_of_secondSuperclass (hk : k.clause d.isInterface = .superclass)
    (hsome : (d.plus ⟨k, names⟩).namesFor .superclass ≠ []) :
    (d.plus ⟨k, names⟩).draft.addName n = .error (.secondSuperclass d.name) := by
  simp [Draft.addName, draft, entry, lastClause_plus, hk, hsome]

end Name

/-- A word that is no keyword is taken for a name. -/
theorem addToken_name {n : ClassName} (hn : ¬ IsKeyword d.isInterface n.text) :
    d.draft.addToken n.text = d.draft.addName n := by
  have hclause : clauseOf? d.draft.entry.isInterface n.text = none :=
    clauseOf?_eq_none_iff.mpr hn
  simp only [Draft.addToken, hclause, ClassName.ofText_eq_ok_iff.mpr rfl]

/-- A word that the line can grow by is taken into its draft. -/
theorem Grows.addToken (h : Grows d word d') : d.draft.addToken word = .ok d'.draft := by
  cases h with
  | @keyword d k hk =>
      have hclause : clauseOf? d.draft.entry.isInterface k.word = some (k.clause d.isInterface) :=
        clauseOf?_word hk
      rw [Draft.addToken, hclause]
      -- A phrase without names changes the open clause, and nothing else.
      simp [draft, entry, namesFor_plus, lastClause_plus, Phrase.namesFor]
  | @name d k names n hn hone =>
      rw [addToken_name (d := d.plus ⟨k, names⟩) hn]
      cases hk : k.clause d.isInterface with
      | opening => exact absurd hk (k.clause_ne_opening _)
      | interfaces => exact addName_of_interfaces names n hk
      | superclass => exact addName_of_superclass names n hk (hone hk)

/-- A word that the line cannot grow by, and what is wrong with it. -/
inductive Refuses : Declaration → Text → LineError → Prop
  /-- It is neither a keyword nor a name. -/
  | badName {d : Declaration} {word : Text} {fault : NameError}
      (hword : ¬ IsKeyword d.isInterface word) (hfault : ClassName.ofText word = .error fault) :
      Refuses d word (.badName fault)
  /-- It is a name outside of all clauses. -/
  | unexpectedToken {d : Declaration} {n : ClassName}
      (hn : ¬ IsKeyword d.isInterface n.text) (hnone : d.phrases = []) :
      Refuses d n.text (.unexpectedToken n)
  /-- It is the name of a second superclass. -/
  | secondSuperclass {d : Declaration} {k : Keyword} {names : List ClassName} {n : ClassName}
      (hn : ¬ IsKeyword d.isInterface n.text) (hk : k.clause d.isInterface = .superclass)
      (hsome : (d.plus ⟨k, names⟩).namesFor .superclass ≠ []) :
      Refuses (d.plus ⟨k, names⟩) n.text (.secondSuperclass d.name)

/-- Such a word is not taken into the draft. -/
theorem Refuses.addToken {cause : LineError} (h : Refuses d word cause) :
    d.draft.addToken word = .error cause := by
  cases h with
  | badName hword hfault =>
      have hclause : clauseOf? d.draft.entry.isInterface word = none :=
        clauseOf?_eq_none_iff.mpr hword
      simp only [Draft.addToken, hclause, hfault]
  | unexpectedToken hn hnone =>
      rw [addToken_name hn]
      simp [Draft.addName, draft, lastClause, hnone]
  | @secondSuperclass d k names n hn hk hsome =>
      rw [addToken_name (d := d.plus ⟨k, names⟩) hn]
      exact addName_of_secondSuperclass names n hk hsome

/-- There is no third case. -/
theorem grows_or_refuses (d : Declaration) (word : Text) :
    (∃ d', Grows d word d') ∨ ∃ cause, Refuses d word cause := by
  by_cases hword : IsKeyword d.isInterface word
  · obtain ⟨k, hk, rfl⟩ := hword
    exact .inl ⟨_, .keyword hk⟩
  · cases hread : ClassName.ofText word with
    | error fault => exact .inr ⟨_, .badName hword hread⟩
    | ok n =>
        obtain rfl := ClassName.ofText_eq_ok_iff.mp hread
        obtain ⟨isMixin, isInterface, name, phrases⟩ := d
        rcases List.eq_nil_or_concat phrases with hnil | ⟨phrases, ⟨k, names⟩, rfl⟩
        · exact .inr ⟨_, .unexpectedToken hword hnil⟩
        · -- The name falls into the last phrase, and fits unless that takes a superclass and
          -- has one.
          rw [List.concat_eq_append] at hword ⊢
          let e : Declaration := ⟨isMixin, isInterface, name, phrases⟩
          by_cases hsecond : k.clause isInterface = .superclass ∧
              (e.plus ⟨k, names⟩).namesFor .superclass ≠ []
          · exact .inr ⟨_, .secondSuperclass (d := e) hword hsecond.1 hsecond.2⟩
          · refine .inl ⟨_, .name (d := e) hword fun hk => ?_⟩
            exact not_not.mp fun hsome => hsecond ⟨hk, hsome⟩

theorem addToken_draft_eq_ok_iff {dr : Draft} :
    d.draft.addToken word = .ok dr ↔ ∃ d', Grows d word d' ∧ d'.draft = dr := by
  constructor
  · intro h
    rcases grows_or_refuses d word with ⟨d', hgrows⟩ | ⟨cause, hrefuses⟩
    · rw [hgrows.addToken] at h
      cases h
      exact ⟨d', hgrows, rfl⟩
    · rw [hrefuses.addToken] at h
      cases h
  · rintro ⟨d', hgrows, rfl⟩
    exact hgrows.addToken

theorem addToken_draft_eq_error_iff {cause : LineError} :
    d.draft.addToken word = .error cause ↔ Refuses d word cause := by
  constructor
  · intro h
    rcases grows_or_refuses d word with ⟨d', hgrows⟩ | ⟨cause', hrefuses⟩
    · rw [hgrows.addToken] at h
      cases h
    · rw [hrefuses.addToken] at h
      cases h
      exact hrefuses
  · exact Refuses.addToken

/-- The words after a name are read exactly if they are those of a well-formed line, and
then the draft is that of the line. -/
theorem foldlM_addToken_eq_ok_iff {clauses : List Text} {dr : Draft} :
    clauses.foldlM Draft.addToken d.bare.draft = .ok dr ↔
      ∃ d' : Declaration, d'.IsWellFormed ∧ d'.bare = d.bare ∧ d'.clauseWords = clauses ∧ d'.draft = dr := by
  constructor
  · -- The words so far are a line, and the next word makes it grow.
    intro h
    induction clauses using List.reverseRecOn generalizing dr with
    | nil =>
        cases h
        exact ⟨d.bare, d.isWellFormed_bare, rfl, rfl, rfl⟩
    | append_singleton clauses word ih =>
        obtain ⟨m, hbefore, hlast⟩ := Runs.foldlM_concat_eq_ok_iff.mp h
        obtain ⟨e, he, hbare, rfl, rfl⟩ := ih hbefore
        obtain ⟨e', hgrows, rfl⟩ := addToken_draft_eq_ok_iff.mp hlast
        exact ⟨e', hgrows.isWellFormed he, hgrows.bare.trans hbare, hgrows.clauseWords, rfl⟩
  · rintro ⟨e, he, hbare, rfl, rfl⟩
    rw [← hbare]
    refine he.induction (P := fun e => e.clauseWords.foldlM Draft.addToken e.bare.draft =
      .ok e.draft) rfl ?_
    intro e word e' _ hgrows ih
    rw [hgrows.clauseWords, hgrows.bare]
    exact Runs.foldlM_concat_eq_ok_iff.mpr ⟨e.draft, ih, hgrows.addToken⟩

/-- They are refused exactly if such a line comes first and refuses the word after it. -/
theorem foldlM_addToken_eq_error_iff {clauses : List Text} {cause : LineError} :
    clauses.foldlM Draft.addToken d.bare.draft = .error cause ↔
      ∃ (d' : Declaration) (word : Text) (rest : List Text), d'.IsWellFormed ∧ d'.bare = d.bare ∧
        clauses = d'.clauseWords ++ word :: rest ∧ Refuses d' word cause := by
  constructor
  · intro h
    obtain ⟨before, word, rest, m, rfl, hbefore, hword⟩ := Runs.foldlM_eq_error_iff.mp h
    obtain ⟨e, he, hbare, rfl, rfl⟩ := foldlM_addToken_eq_ok_iff.mp hbefore
    exact ⟨e, word, rest, he, hbare, rfl, addToken_draft_eq_error_iff.mp hword⟩
  · rintro ⟨e, word, rest, he, hbare, rfl, hrefuses⟩
    exact Runs.foldlM_eq_error_iff.mpr ⟨e.clauseWords, word, rest, e.draft, rfl,
      foldlM_addToken_eq_ok_iff.mpr ⟨e, he, hbare, rfl, rfl⟩, hrefuses.addToken⟩

end Declaration

/-! ## Whole lines -/

/-- What is wrong with the words of a line. -/
inductive IsFault : List Text → LineError → Prop
  | missingKind (isMixin : Bool) : IsFault (mixinWords isMixin) .missingKind
  /-- The first word that should be a kind is none. -/
  | expectedKind {isMixin : Bool} {word : Text} {rest : List Text}
      (hkind : ∀ isInterface, word ≠ kindWord isInterface)
      (hmixin : isMixin = false → word ≠ Text.ofString "mixin") :
      IsFault (mixinWords isMixin ++ word :: rest) (.expectedKind word)
  | missingName (isMixin isInterface : Bool) :
      IsFault (mixinWords isMixin ++ [kindWord isInterface]) .missingName
  | badName {isMixin isInterface : Bool} {word : Text} {rest : List Text} {fault : NameError}
      (hfault : ClassName.ofText word = .error fault) :
      IsFault (mixinWords isMixin ++ kindWord isInterface :: word :: rest) (.badName fault)
  /-- The line is well-formed up to a word that it refuses. -/
  | clause {d : Declaration} {word : Text} {rest : List Text} {cause : LineError}
      (hd : d.IsWellFormed) (hword : d.Refuses word cause) :
      IsFault (d.words ++ word :: rest) cause

/-- After the words in front of the kind, the declaration is read. -/
theorem readTokens_mixinWords {isMixin : Bool} {rest : List Text}
    (h : isMixin = false → rest.head? ≠ some (Text.ofString "mixin")) :
    readTokens (mixinWords isMixin ++ rest) = readDeclaration isMixin rest := by
  cases isMixin with
  | true => rfl
  | false =>
      cases rest with
      | nil => rfl
      | cons word rest =>
          have hword : word ≠ Text.ofString "mixin" := by simpa using h rfl
          exact if_neg hword

theorem kindWord_ne_mixin (isInterface : Bool) :
    kindWord isInterface ≠ Text.ofString "mixin" := by
  cases isInterface <;> decide

/-- After the kind, a name and the clauses are read. -/
theorem readDeclaration_kindWord (isMixin isInterface : Bool) (word : Text)
    (clauses : List Text) :
    readDeclaration isMixin (kindWord isInterface :: word :: clauses) =
      match ClassName.ofText word with
      | .error fault => .error (.badName fault)
      | .ok name => (clauses.foldlM Draft.addToken
          (Declaration.bare ⟨isMixin, isInterface, name, []⟩).draft).map Draft.entry := by
  cases isInterface with
  | false =>
      rw [readDeclaration, if_pos (.inl rfl)]
      cases ClassName.ofText word <;> rfl
  | true =>
      rw [readDeclaration, if_pos (.inr rfl)]
      cases ClassName.ofText word <;> rfl

/-- In a line, the clauses are read after the name. -/
theorem readTokens_words (d : Declaration) (rest : List Text) :
    readTokens (d.words ++ rest) =
      ((d.clauseWords ++ rest).foldlM Draft.addToken d.bare.draft).map Draft.entry := by
  have hkind : d.isMixin = false →
      (kindWord d.isInterface :: d.name.text :: (d.clauseWords ++ rest)).head? ≠
        some (Text.ofString "mixin") := fun _ => by
    simpa using kindWord_ne_mixin d.isInterface
  have hwords : d.words ++ rest = mixinWords d.isMixin ++
      kindWord d.isInterface :: d.name.text :: (d.clauseWords ++ rest) := by
    simp [Declaration.words]
  rw [hwords, readTokens_mixinWords hkind, readDeclaration_kindWord,
    ClassName.ofText_eq_ok_iff.mpr rfl]
  rfl

/-- A well-formed line is read, and declares its entry. -/
theorem Declaration.IsWellFormed.readTokens {d : Declaration} (hd : d.IsWellFormed) :
    readTokens d.words = .ok d.entry := by
  have hrun : d.clauseWords.foldlM Draft.addToken d.bare.draft = .ok d.draft :=
    foldlM_addToken_eq_ok_iff.mpr ⟨d, hd, rfl, rfl, rfl⟩
  have hread := readTokens_words d []
  rw [List.append_nil, List.append_nil, hrun] at hread
  exact hread

/-- A line with a fault is not. -/
theorem IsFault.readTokens {words : List Text} {cause : LineError} (h : IsFault words cause) :
    readTokens words = .error cause := by
  cases h with
  | missingKind isMixin => cases isMixin <;> rfl
  | @expectedKind isMixin word rest hkind hmixin =>
      have hno : ¬ (word = Text.ofString "class" ∨ word = Text.ofString "interface") := by
        rintro (heq | heq)
        · exact hkind false heq
        · exact hkind true heq
      rw [readTokens_mixinWords (by simpa using hmixin)]
      exact if_neg hno
  | missingName isMixin isInterface =>
      rw [readTokens_mixinWords fun _ => by simpa using kindWord_ne_mixin isInterface]
      cases isInterface <;> rfl
  | @badName isMixin isInterface word rest fault hfault =>
      rw [readTokens_mixinWords fun _ => by simpa using kindWord_ne_mixin isInterface,
        readDeclaration_kindWord, hfault]
  | @clause d word rest cause hd hword =>
      have hrun : (d.clauseWords ++ word :: rest).foldlM Draft.addToken d.bare.draft =
          .error cause :=
        Declaration.foldlM_addToken_eq_error_iff.mpr ⟨d, word, rest, hd, rfl, rfl, hword⟩
      rw [readTokens_words, hrun]
      rfl

/-- Lines with the same header differ in their clauses only. -/
theorem Declaration.words_of_bare {d e : Declaration} (h : d.bare = e.bare) :
    d.words = mixinWords e.isMixin ++ kindWord e.isInterface :: e.name.text :: d.clauseWords := by
  cases d
  cases e
  cases h
  rfl

/-- Either there is `mixin` in front of the kind or not. -/
theorem exists_eq_mixinWords (words : List Text) :
    ∃ isMixin rest, words = mixinWords isMixin ++ rest ∧
      (isMixin = false → rest.head? ≠ some (Text.ofString "mixin")) := by
  by_cases hmixin : words.head? = some (Text.ofString "mixin")
  · obtain ⟨rest, rfl⟩ := List.head?_eq_some_iff.mp hmixin
    exact ⟨true, rest, rfl, fun h => by cases h⟩
  · exact ⟨false, words, rfl, fun _ => hmixin⟩

/-- There is no third case. -/
theorem isWellFormed_or_isFault (words : List Text) :
    (∃ d : Declaration, d.IsWellFormed ∧ d.words = words) ∨ ∃ cause, IsFault words cause := by
  -- The words of the header are taken off one by one; each that is missing is a fault.
  obtain ⟨isMixin, rest, rfl, hmixin⟩ := exists_eq_mixinWords words
  cases rest with
  | nil => exact .inr ⟨_, by simpa using .missingKind isMixin⟩
  | cons kind rest =>
      by_cases hkind : ∃ isInterface, kind = kindWord isInterface
      · obtain ⟨isInterface, rfl⟩ := hkind
        cases rest with
        | nil => exact .inr ⟨_, .missingName isMixin isInterface⟩
        | cons word clauses =>
            cases hread : ClassName.ofText word with
            | error fault => exact .inr ⟨_, .badName hread⟩
            | ok name =>
                -- The header is complete, and the clauses decide.
                obtain rfl := ClassName.ofText_eq_ok_iff.mp hread
                let b : Declaration := ⟨isMixin, isInterface, name, []⟩
                cases hrun : clauses.foldlM Draft.addToken b.bare.draft with
                | ok dr =>
                    obtain ⟨d, hd, hbare, rfl, -⟩ :=
                      Declaration.foldlM_addToken_eq_ok_iff.mp hrun
                    exact .inl ⟨d, hd, Declaration.words_of_bare hbare⟩
                | error cause =>
                    obtain ⟨d, word, rest, hd, hbare, rfl, hword⟩ :=
                      Declaration.foldlM_addToken_eq_error_iff.mp hrun
                    have hfault : IsFault (d.words ++ word :: rest) cause := .clause hd hword
                    rw [Declaration.words_of_bare hbare] at hfault
                    exact .inr ⟨cause, by simpa using hfault⟩
      · exact .inr ⟨_, .expectedKind (fun isInterface heq => hkind ⟨isInterface, heq⟩)
          (by simpa using hmixin)⟩

/-- The words that are read are those of well-formed lines, and each declares what its line
declares. -/
theorem readTokens_eq_ok_iff {words : List Text} {e : ClassEntry} :
    readTokens words = .ok e ↔
      ∃ d : Declaration, d.IsWellFormed ∧ d.words = words ∧ d.entry = e := by
  constructor
  · intro h
    rcases isWellFormed_or_isFault words with ⟨d, hd, rfl⟩ | ⟨cause, hfault⟩
    · rw [hd.readTokens] at h
      cases h
      exact ⟨d, hd, rfl, rfl⟩
    · rw [hfault.readTokens] at h
      cases h
  · rintro ⟨d, hd, rfl, rfl⟩
    exact hd.readTokens

/-- All others have a fault, and it is the one that is reported. -/
theorem readTokens_eq_error_iff {words : List Text} {cause : LineError} :
    readTokens words = .error cause ↔ IsFault words cause := by
  constructor
  · intro h
    rcases isWellFormed_or_isFault words with ⟨d, hd, rfl⟩ | ⟨cause', hfault⟩
    · rw [hd.readTokens] at h
      cases h
    · rw [hfault.readTokens] at h
      cases h
      exact hfault
  · exact IsFault.readTokens

end ClassGraft.Listing
