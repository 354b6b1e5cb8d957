import ClassGraft.Compatibility.Feature
import ClassGraft.Text.Hex

/-!
# Settings

What a merge needs to know about its run: the session whose id goes into
generated names, the level of the runtime, and the optional features that were
switched on. A feature counts as enabled only if the level has it.
-/

namespace ClassGraft

/-- Settings of a run. -/
structure Settings where
  /-- Identifier of the run, mixed into the names of merged members. -/
  session : Text
  /-- Level of the runtime that will load the merged classes. -/
  level : Level := .java8
  /-- Optional features that were switched on. -/
  switchedOn : List Feature := []
  deriving DecidableEq

/-- A session id that cannot be used. -/
inductive SettingsError where
  | emptySession
  /-- The first character that no generated name may hold. -/
  | illegalCharacter (session : Text) (c : Char)
  deriving DecidableEq, Repr

namespace SettingsError

/-- The wording of what is wrong with the session id. -/
def detail : SettingsError → String
  | emptySession => "Session id is empty"
  | illegalCharacter session c =>
    let shown := Text.toStr session
    s!"Session id '{shown}' contains illegal character '{c}'"

/-- The wording of the fault on its own. -/
def message (e : SettingsError) : String := "Invalid settings: " ++ e.detail

end SettingsError

namespace Settings

/-- The level that settings start with. -/
def defaultLevel : Level := .java8

/-- Is the character one that no session id may hold? -/
def isIllegalInSession (c : Char) : Bool :=
  c == '.' || c == ';' || c == '[' || c == '/' || c == '<' || c == '>'

/-- Settings for a given session, at the default level and with no optional
feature switched on. -/
def withSession (session : Text) : Except SettingsError Settings :=
  if session = [] then .error .emptySession
  else match session.find? isIllegalInSession with
    | some c => .error (.illegalCharacter session c)
    | none => .ok { session := session, level := defaultLevel, switchedOn := [] }

/-- A session id is accepted when it is not empty and holds no illegal character. -/
theorem withSession_eq_ok_iff {session : Text} {s : Settings} :
    withSession session = .ok s ↔
      (session ≠ [] ∧ ∀ c ∈ session, isIllegalInSession c = false) ∧
        s = { session := session, level := defaultLevel, switchedOn := [] } := by
  unfold withSession
  split
  · next h => simp [h]
  · next h =>
    split
    · next c hc =>
      -- A character was found, so the session is refused and the rule is broken.
      have hmem := List.mem_of_find?_eq_some hc
      have hbad := List.find?_some hc
      constructor
      · intro hok
        cases hok
      · rintro ⟨⟨_, hall⟩, _⟩
        rw [hall c hmem] at hbad
        cases hbad
    · next hnone =>
      have hall : ∀ c ∈ session, isIllegalInSession c = false := by
        simpa using List.find?_eq_none.mp hnone
      constructor
      · intro hok
        cases hok
        exact ⟨⟨h, hall⟩, rfl⟩
      · rintro ⟨_, rfl⟩
        rfl

/-- The id of a fresh session, made of 128 random bits: thirty-two hexadecimal
digits in groups of 8, 4, 4, 4 and 12, of which one digit and two bits are fixed
to mark the id as random. -/
def freshSession (random : Nat) : Text :=
  let high := random >>> 80 % (1 <<< 48)
  let middle := 0x4000 ||| random >>> 64 % 0x1000
  let low := 0x8000000000000000 ||| random % (1 <<< 62)
  let digits (width n : Nat) : Text := Text.padLeft width '0' (Text.hex n)
  digits 8 (high >>> 16) ++ '-' :: digits 4 (high % 0x10000) ++ '-' :: digits 4 middle
    ++ '-' :: digits 4 (low >>> 48) ++ '-' :: digits 12 (low % (1 <<< 48))

/-- Settings with a fresh session. -/
def fresh (random : Nat) : Settings :=
  { session := freshSession random, level := defaultLevel, switchedOn := [] }

/-- Switch an optional feature on. -/
def enable (s : Settings) (f : Feature) : Settings :=
  if f ∈ s.switchedOn then s else { s with switchedOn := s.switchedOn ++ [f] }

/-- Could the feature be used at the level of the settings? -/
def isAvailable (s : Settings) (f : Feature) : Bool := f.requiredLevel ≤ s.level

/-- Is the feature switched on, and usable? -/
def isEnabled (s : Settings) (f : Feature) : Bool := f ∈ s.switchedOn && s.isAvailable f

/-- Does the level of the settings understand all of the language features? -/
def supports (s : Settings) (fs : List LanguageFeature) : Bool := s.level.supports fs

end Settings

end ClassGraft
