import Mathlib.Data.List.Infix
import Mathlib.Tactic.ByContra
import ClassGraft.Mixin.Config
import ClassGraft.Mixin.Role
import ClassGraft.Name.Member
import ClassGraft.Naming.Fragment
import ClassGraft.Proofs.Naming.Numerals

/-!
# What generated names are glued together from

Numbers, words of injectors and source ids are words: letters, digits and
underscores. A word holds none of the characters that are reserved in member
names, and it ends where a dollar sign follows, which is how two generated names
are compared part by part.

The other fragments come from outside: the tail of a session id and a name
without its source are suffixes of what they are taken from.
-/

namespace ClassGraft

namespace Naming

/-- Occurrences have digits of their own. -/
theorem occurrenceDigits_injective {m n : UInt32} (h : occurrenceDigits m = occurrenceDigits n) :
    m = n :=
  UInt32.toNat_inj.mp (Text.padLeft_hex_injective h)

/-! ## Words -/

/-- A text of letters, digits and underscores. -/
def IsWord (t : Text) : Prop := ∀ c ∈ t, MixinConfig.isSourceChar c = true

instance (t : Text) : Decidable (IsWord t) :=
  decidable_of_iff (t.all MixinConfig.isSourceChar = true) List.all_eq_true

/-- No word holds a dollar sign. -/
theorem IsWord.dollar_not_mem {t : Text} (h : IsWord t) : '$' ∉ t := by
  intro hmem
  exact absurd (h _ hmem) (by decide)

/-- No character of a word is reserved. -/
theorem IsWord.isReserved_eq_false {t : Text} (h : IsWord t) {c : Char} (hc : c ∈ t) :
    isReserved c = false := by
  by_contra hne
  have hres : isReserved c = true := by simpa only [Bool.not_eq_false] using hne
  have hcases : ((c = '.' ∨ c = ';') ∨ c = '[') ∨ c = '/' := by
    simpa only [isReserved, Bool.or_eq_true, beq_iff_eq] using hres
  have hword := h c hc
  rcases hcases with ((rfl | rfl) | rfl) | rfl <;> revert hword <;> decide

theorem IsWord.append {s t : Text} (hs : IsWord s) (ht : IsWord t) : IsWord (s ++ t) := by
  intro c hc
  rcases List.mem_append.mp hc with hc | hc
  · exact hs c hc
  · exact ht c hc

/-- A word ends where a dollar sign follows. -/
theorem IsWord.append_dollar_inj {s t x y : Text} (hs : IsWord s) (ht : IsWord t) :
    s ++ '$' :: x = t ++ '$' :: y ↔ s = t ∧ x = y := by
  constructor
  · intro h
    have hlength : s.length = t.length := by
      have hs' : (s ++ '$' :: x).idxOf '$' = s.length := by
        rw [List.idxOf_append_of_notMem hs.dollar_not_mem]
        simp
      have ht' : (t ++ '$' :: y).idxOf '$' = t.length := by
        rw [List.idxOf_append_of_notMem ht.dollar_not_mem]
        simp
      rw [← hs', ← ht', h]
    obtain ⟨hst, hxy⟩ := List.append_inj h hlength
    exact ⟨hst, by simpa using hxy⟩
  · rintro ⟨rfl, rfl⟩
    rfl

theorem IsWord.reverse {t : Text} (ht : IsWord t) : IsWord t.reverse :=
  fun c hc => ht c (List.mem_reverse.mp hc)

/-- And it starts where the last dollar sign is. -/
theorem IsWord.dollar_append_inj {s t x y : Text} (hs : IsWord s) (ht : IsWord t) :
    x ++ '$' :: s = y ++ '$' :: t ↔ x = y ∧ s = t := by
  have hreverse : ∀ u v : Text, (u ++ '$' :: v).reverse = v.reverse ++ '$' :: u.reverse := by
    intro u v
    simp
  rw [← List.reverse_inj, hreverse, hreverse, hs.reverse.append_dollar_inj ht.reverse,
    List.reverse_inj, List.reverse_inj, and_comm]

/-- Numerals are words, if their digits can stand in words. -/
theorem isWord_base16 {digit : Nat → Char}
    (hdigit : ∀ d : Fin 16, MixinConfig.isSourceChar (digit d) = true) (n : Nat) :
    IsWord (Text.base16 digit n) := by
  intro c hc
  obtain ⟨d, hd, rfl⟩ := Text.exists_digit_of_mem_base16 hc
  exact hdigit ⟨d, hd⟩

theorem IsWord.padLeft {t : Text} (ht : IsWord t) (width : Nat) {fill : Char}
    (hfill : MixinConfig.isSourceChar fill = true) : IsWord (Text.padLeft width fill t) := by
  refine IsWord.append ?_ ht
  intro c hc
  rw [List.eq_of_mem_replicate hc]
  exact hfill

theorem isWord_hex (n : Nat) : IsWord (Text.hex n) := isWord_base16 (by decide) n

theorem isWord_occurrenceDigits (n : UInt32) : IsWord (occurrenceDigits n) :=
  (isWord_hex n.toNat).padLeft 3 (by decide)

theorem isWord_classLetters (id : Nat) : IsWord (classLetters id) :=
  (isWord_base16 (by decide) id).padLeft 3 (by decide)

theorem isWord_handlerWord (injector : Injector) :
    IsWord (Text.ofString injector.handlerWord) := by
  cases injector <;> decide

/-- What a configuration gives names of its source id is a word. -/
theorem isWord_sourceNamespace (config : MixinConfig) :
    IsWord (sourceNamespace config.sourceId) := by
  intro c hc
  have hmem : c ∈ config.sourceId.getD [] := List.mem_of_mem_take hc
  unfold MixinConfig.sourceId at hmem
  cases hsource : config.source with
  | none => simp [hsource] at hmem
  | some source =>
      by_cases hempty : MixinConfig.cleanSource source = []
      · simp [hsource, hempty, Option.filter] at hmem
      · have hclean : c ∈ MixinConfig.cleanSource source := by
          simpa [hsource, hempty, Option.filter] using hmem
        exact MixinConfig.isSourceChar_of_mem_cleanSource hclean

/-! ## Numbers at the end of names -/

/-- The name ends in the number, behind a dollar sign. -/
def EndsIn (name : Text) (n : UInt32) : Prop := ∃ front, name = front ++ '$' :: Text.hex n.toNat

/-- A name ends in at most one number. -/
theorem EndsIn.unique {name : Text} {m n : UInt32} (hm : EndsIn name m) (hn : EndsIn name n) :
    m = n := by
  obtain ⟨front, rfl⟩ := hm
  obtain ⟨front', hname⟩ := hn
  have hdigits := ((isWord_hex m.toNat).dollar_append_inj (isWord_hex n.toNat)).mp hname
  exact UInt32.toNat_inj.mp (Text.hex_injective hdigits.2)

/-! ## Parts of other texts -/

/-- The part of a session id that goes into names is its end. -/
theorem sessionTail_isSuffix (session : Text) : sessionTail session <:+ session := by
  unfold sessionTail
  split
  · exact List.suffix_rfl
  · exact List.suffix_rfl
  · next c tail htail =>
    obtain ⟨front, hsplit, _⟩ := Text.dropBytes?_eq_some htail
    exact ⟨front, hsplit.symm⟩

/-- Without a source id nothing is taken off. -/
@[simp] theorem stripSource_nil (name : Text) : stripSource name [] = name := rfl

/-- What is left of a name without its source is its end. -/
theorem stripSource_isSuffix (name source : Text) : stripSource name source <:+ name := by
  unfold stripSource
  split
  · exact List.suffix_rfl
  · split
    · next c d rest hrest =>
      split
      · have hname : source ++ c :: d :: rest = name := List.append_eq_of_isPrefixOf?_eq_some hrest
        exact (List.suffix_cons c (d :: rest)).trans ⟨source, hname⟩
      · exact List.suffix_rfl
    · exact List.suffix_rfl

end Naming

end ClassGraft
