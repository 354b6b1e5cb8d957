import ClassGraft.Naming.Allocator
import ClassGraft.Proofs.Naming.Fragments
import ClassGraft.Settings

/-!
# Generated names are member names

Every fragment is clean: it holds no reserved character. For the session id the
settings have seen to that, for source ids the cleaning, for member names their
rule, and numbers and words have none anyway. Dollar signs may stand between
fragments, so what is glued together from them is clean as well.
-/

namespace ClassGraft

/-! ## Settings -/

/-- Settings as they are made: from a session id that was accepted, and by
choosing a level and enabling features, in any order. -/
inductive Settings.IsBuilt : Settings → Prop where
  | withSession {session : Text} {s : Settings} (h : Settings.withSession session = .ok s) :
      IsBuilt s
  | atLevel {s : Settings} (level : Level) (h : IsBuilt s) : IsBuilt { s with level := level }
  | enable {s : Settings} (feature : Feature) (h : IsBuilt s) : IsBuilt (s.enable feature)

namespace Naming

/-- The text holds no reserved character. -/
def IsClean (t : Text) : Prop := ∀ c ∈ t, isReserved c = false

instance (t : Text) : Decidable (IsClean t) :=
  decidable_of_iff (t.all (fun c => !isReserved c) = true) (by simp [IsClean])

theorem IsWord.isClean {t : Text} (h : IsWord t) : IsClean t := fun _ => h.isReserved_eq_false

theorem isClean_text (name : MemberName) : IsClean name.text := name.valid.2

theorem IsClean.of_isSuffix {s t : Text} (h : s <:+ t) (ht : IsClean t) : IsClean s :=
  fun c hc => ht c (h.subset hc)

@[simp] theorem isClean_nil : IsClean [] := by
  intro c hc
  cases hc

@[simp] theorem isClean_append {s t : Text} : IsClean (s ++ t) ↔ IsClean s ∧ IsClean t :=
  List.forall_mem_append

@[simp] theorem isClean_cons {c : Char} {t : Text} :
    IsClean (c :: t) ↔ isReserved c = false ∧ IsClean t :=
  List.forall_mem_cons

end Naming

open Naming

/-- The session id of built settings is clean. -/
theorem Settings.IsBuilt.isClean_session {s : Settings} (h : s.IsBuilt) : IsClean s.session := by
  induction h with
  | withSession h =>
      obtain ⟨⟨_, hlegal⟩, rfl⟩ := Settings.withSession_eq_ok_iff.mp h
      intro c hc
      have hc := hlegal c hc
      simp only [Settings.isIllegalInSession, Bool.or_eq_false_iff] at hc
      simp only [isReserved, Bool.or_eq_false_iff]
      tauto
  | atLevel _ _ ih => exact ih
  | @enable s feature _ ih =>
      have hsame : (s.enable feature).session = s.session := by
        unfold Settings.enable
        split <;> rfl
      rw [hsame]
      exact ih

namespace Naming

/-! ## Fragments -/

theorem isClean_sessionTail {session : Text} (h : IsClean session) :
    IsClean (sessionTail session) :=
  h.of_isSuffix (sessionTail_isSuffix session)

theorem isClean_stripSource (name : MemberName) (source : Text) :
    IsClean (stripSource name.text source) :=
  (isClean_text name).of_isSuffix (stripSource_isSuffix name.text source)

theorem isClean_sourceNamespace (config : MixinConfig) :
    IsClean (sourceNamespace config.sourceId) :=
  (isWord_sourceNamespace config).isClean

theorem isClean_sourceMark {source : Text} (h : IsClean source) : IsClean (sourceMark source) := by
  unfold sourceMark
  split
  · exact isClean_nil
  · simpa [h] using (by decide : isReserved '$' = false)

theorem isClean_hex (n : Nat) : IsClean (Text.hex n) := (isWord_hex n).isClean

end Naming

/-! ## Names -/

section Names

variable (config : MixinConfig) (name : MemberName)

/-- Unique methods get member names. -/
theorem isMemberName_uniqueMethodText {session : Text} (hsession : IsClean session)
    (keepsStart : Bool) (number : UInt32) :
    IsMemberName
      (Allocator.uniqueMethodText config.sourceId session name.text keepsStart number) := by
  have htail := isClean_sessionTail hsession
  have hspace := isClean_sourceNamespace config
  have hstripped := isClean_stripSource name (sourceNamespace config.sourceId)
  have hname := isClean_text name
  have hdigits := isClean_hex number.toNat
  have hdollar : isReserved '$' = false := by decide
  have hmark : IsClean (Text.ofString "_$md$") := by decide
  have hstart : IsClean (Text.ofString "md") := by decide
  cases keepsStart with
  | true =>
      refine ⟨by simp [Allocator.uniqueMethodText], ?_⟩
      have hbody : IsClean (if sourceNamespace config.sourceId = [] then name.text
          else stripSource name.text (sourceNamespace config.sourceId) ++ '$' ::
            sourceNamespace config.sourceId) := by
        split
        · exact hname
        · simp only [isClean_append, isClean_cons]
          exact ⟨hstripped, hdollar, hspace⟩
      show IsClean _
      simp only [Allocator.uniqueMethodText, if_true, isClean_append, isClean_cons]
      exact ⟨⟨⟨hbody, hmark⟩, htail⟩, hdollar, hdigits⟩
  | false =>
      refine ⟨by simp [Allocator.uniqueMethodText], ?_⟩
      have hbody : IsClean (if sourceNamespace config.sourceId = [] then name.text
          else sourceNamespace config.sourceId ++ '$' ::
            stripSource name.text (sourceNamespace config.sourceId)) := by
        split
        · exact hname
        · simp only [isClean_append, isClean_cons]
          exact ⟨hspace, hdollar, hstripped⟩
      show IsClean _
      simp only [Allocator.uniqueMethodText, Bool.false_eq_true, if_false, isClean_append,
        isClean_cons]
      exact ⟨⟨⟨hstart, htail⟩, hdollar, hbody⟩, hdollar, hdigits⟩

/-- Unique fields get member names. -/
theorem isMemberName_uniqueFieldText {session : Text} (hsession : IsClean session)
    (number : UInt32) :
    IsMemberName (Allocator.uniqueFieldText config.sourceId session name.text number) := by
  have htail := isClean_sessionTail hsession
  have hmark := isClean_sourceMark (isClean_sourceNamespace config)
  have hname := isClean_text name
  have hdigits := isClean_hex number.toNat
  have hdollar : isReserved '$' = false := by decide
  have hstart : IsClean (Text.ofString "fd") := by decide
  refine ⟨by simp [Allocator.uniqueFieldText], ?_⟩
  show IsClean _
  simp only [Allocator.uniqueFieldText, isClean_append, isClean_cons]
  exact ⟨⟨⟨⟨hstart, htail⟩, hdollar, hmark⟩, hname⟩, hdollar, hdigits⟩

/-- Handlers get member names. -/
theorem isMemberName_handlerName (registry : Registry) (injector : Injector) (target : ClassName)
    (descriptor : Text) (isSurrogate : Bool) :
    IsMemberName (registry.handlerName config.sourceId (Text.ofString injector.handlerWord) target
      name.text descriptor isSurrogate).1 := by
  have hword := (isWord_handlerWord injector).isClean
  have hletters := fun id => (isWord_classLetters id).isClean
  have hdigits := fun n => (isWord_occurrenceDigits n).isClean
  have hmark := isClean_sourceMark (isClean_sourceNamespace config)
  have hkept := isClean_stripSource name (sourceNamespace config.sourceId)
  have hdollar : isReserved '$' = false := by decide
  refine ⟨by simp [Registry.handlerName], ?_⟩
  show IsClean _
  simp only [Registry.handlerName, isClean_append, isClean_cons]
  exact ⟨⟨⟨⟨hword, hdollar, hletters _⟩, hdigits _⟩, hdollar, hmark⟩, hkept⟩

end Names

end ClassGraft
