import ClassGraft.Decorations
import ClassGraft.Text.Basic

/-!
# Mixin configurations

The unit in which mixins are shipped: a name, who supplied it, and notes. The
supplier's id goes into member names only after cleaning, and an id of which
nothing is left counts as none.
-/

namespace ClassGraft

/-- A configuration that ships mixins. -/
structure MixinConfig where
  /-- Name of the configuration. -/
  name : String
  /-- Id of the supplier, as given. -/
  source : Option Text := none
  /-- Free-form notes on the configuration. -/
  decorations : Decorations := {}
  deriving DecidableEq

namespace MixinConfig

/-- The note that says which mod owns the configuration. -/
def modIdKey : String := "fabric-modId"

/-- The owner of a configuration that no mod claimed. -/
def unknownModId : String := "(unknown)"

/-- May the character stand in a cleaned source id? -/
def isSourceChar (c : Char) : Bool := c.isAlphanum || c == '_'

/-- The source id with every character that is not an ASCII letter, a digit or
an underscore replaced by an underscore. -/
def cleanSource (source : Text) : Text := source.map fun c => if isSourceChar c then c else '_'

/-- The source id as it may stand in member names. -/
def sourceId (config : MixinConfig) : Option Text :=
  (config.source.map cleanSource).filter fun cleaned => !cleaned.isEmpty

/-- Attach a note, unless its key has one. -/
def decorate (config : MixinConfig) (key value : String) : MixinConfig :=
  { config with decorations := config.decorations.put key value }

/-- The mod that owns the configuration. -/
def modId (config : MixinConfig) : String :=
  (config.decorations.get? modIdKey).getD unknownModId

/-- A cleaned id holds letters, digits and underscores only. -/
theorem isSourceChar_of_mem_cleanSource {source : Text} {c : Char}
    (h : c ∈ cleanSource source) : isSourceChar c = true := by
  obtain ⟨d, _, rfl⟩ := List.mem_map.mp h
  split
  · assumption
  · rfl

end MixinConfig

end ClassGraft
