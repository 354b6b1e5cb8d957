import ClassGraft.Compatibility.Level

/-!
# Language features

Structural features of class files, each understood from some level on. A set of
features is a list of them; as a number, each feature has a bit of its own.
-/

namespace ClassGraft

/-- Structural features of class files. -/
inductive LanguageFeature where
  | interfaceMethods
  | privateSyntheticInterfaceMethods
  | privateInterfaceMethods
  | nesting
  | dynamicConstants
  | records
  | sealedClasses
  deriving DecidableEq, Repr

namespace LanguageFeature

/-- The lowest level that understands the feature. -/
def since : LanguageFeature → Level
  | interfaceMethods => .java8
  | privateSyntheticInterfaceMethods => .java8
  | privateInterfaceMethods => .java9
  | nesting => .java11
  | dynamicConstants => .java11
  | records => .java16
  | sealedClasses => .java17

/-- All features, in the order of their bits. -/
def all : List LanguageFeature :=
  [interfaceMethods, privateSyntheticInterfaceMethods, privateInterfaceMethods, nesting,
    dynamicConstants, records, sealedClasses]

/-- The position of the feature's bit. -/
def bit : LanguageFeature → Nat
  | interfaceMethods => 0
  | privateSyntheticInterfaceMethods => 1
  | privateInterfaceMethods => 2
  | nesting => 3
  | dynamicConstants => 4
  | records => 5
  | sealedClasses => 6

/-- The features whose bits are set. Other bits are ignored. -/
def ofBits (bits : Nat) : List LanguageFeature := all.filter fun f => bits.testBit f.bit

/-- The number with the bits of the features. -/
def toBits (fs : List LanguageFeature) : Nat := fs.foldl (fun bits f => bits ||| 1 <<< f.bit) 0

end LanguageFeature

namespace Level

/-- Does the level understand the feature? -/
def understands (l : Level) (f : LanguageFeature) : Bool := f.since ≤ l

/-- Does the level understand all of the features? -/
def supports (l : Level) (fs : List LanguageFeature) : Bool := fs.all l.understands

/-- All features that the level understands. -/
def languageFeatures (l : Level) : List LanguageFeature := LanguageFeature.all.filter l.understands

/-- The lowest level that understands all of the features. -/
def requiredFor (fs : List LanguageFeature) : Option Level := all.find? fun l => l.supports fs

/-- A higher level understands whatever a lower one does. -/
theorem understands_mono {a b : Level} (h : a ≤ b) {f : LanguageFeature}
    (ha : a.understands f = true) : b.understands f = true := by
  simp only [understands, decide_eq_true_eq, le_def] at *
  omega

/-- A single feature is first understood at its own level. -/
theorem requiredFor_singleton (f : LanguageFeature) : requiredFor [f] = some f.since := by
  cases f <;> decide

end Level

end ClassGraft
