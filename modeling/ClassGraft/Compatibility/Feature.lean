import ClassGraft.Compatibility.LanguageFeature

/-!
# Optional features

Behaviours that are off until they are switched on, and that a runtime below
some level cannot have at all.
-/

namespace ClassGraft

/-- Optional features. -/
inductive Feature where
  /-- Injectors are allowed in mixins that target interfaces. -/
  | injectorsInInterfaceMixins
  /-- Injectors may skip the validation of their targets. -/
  | uncheckedInjection
  deriving DecidableEq, Repr

namespace Feature

/-- All optional features. -/
def all : List Feature := [injectorsInInterfaceMixins, uncheckedInjection]

/-- The name under which the feature is switched on. -/
def name : Feature → String
  | injectorsInInterfaceMixins => "injectors-in-interface-mixins"
  | uncheckedInjection => "unsafe-injection"

instance : ToString Feature := ⟨name⟩

/-- The lowest level at which the feature can be used. Injectors in interfaces
need interfaces with methods. -/
def requiredLevel : Feature → Level
  | injectorsInInterfaceMixins => LanguageFeature.interfaceMethods.since
  | uncheckedInjection => .java6

/-- A text that names no optional feature. -/
structure ParseError where
  /-- The text as it was given. -/
  text : String
  deriving DecidableEq, Repr

/-- The wording of a text that names no optional feature. -/
def ParseError.message (e : ParseError) : String :=
  let shown := e.text
  s!"Unknown feature '{shown}'"

/-- The feature with this very name. -/
def parse (s : String) : Except ParseError Feature :=
  match all.find? fun f => f.name == s with
  | some f => .ok f
  | none => .error ⟨s⟩

/-- A feature is read from its own name. -/
theorem parse_name (f : Feature) : parse f.name = .ok f := by
  cases f <;> rfl

end Feature

end ClassGraft
