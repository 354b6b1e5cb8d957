import ClassGraft.Name.Basic

/-!
# Why a descriptor cannot be read

Each cause names what the reader met, or what it still needed when the text was
over. A class name that ends properly but breaks the rule for names keeps the
name's own fault.
-/

namespace ClassGraft

/-- A text that is not the descriptor it was read as. -/
inductive DescriptorError where
  /-- A class inside the descriptor has a malformed name. -/
  | badName (fault : NameError)
  /-- A character that stands for no primitive type. -/
  | invalidPrimitive (c : Char)
  /-- The text ended where a primitive type was needed. -/
  | missingPrimitive
  /-- The text ended inside a class name. -/
  | unterminatedClass (name : Text)
  /-- A class had to start here. -/
  | expectedClass
  /-- A character that starts no reference type. -/
  | invalidReference (c : Char)
  /-- A character that starts no type. -/
  | invalidField (c : Char)
  /-- The text ended where a type was needed. -/
  | missingType
  /-- The parameters of a method had to start here. -/
  | expectedParameters
  /-- The descriptor was complete, but the text went on. -/
  | leftover (c : Char) (source : Text)
  deriving DecidableEq, Repr

namespace DescriptorError

/-- The wording of a cause, without saying that it concerns a descriptor. -/
def detail : DescriptorError → String
  | badName fault => fault.message
  | invalidPrimitive c => s!"Invalid base type character '{c}'"
  | missingPrimitive => "Missing base type character"
  | unterminatedClass name =>
    let shown := Text.toStr name
    s!"Missing terminator for 'L{shown}'"
  | expectedClass => "Expected object type to start with `L`"
  | invalidReference c => s!"Invalid reference type character '{c}'"
  | invalidField c => s!"Invalid field type character '{c}'"
  | missingType => "Missing field type"
  | expectedParameters => "Expected '(' for method"
  | leftover c source =>
    let shown := Text.toStr source
    s!"Unexpected leftover input '{c}' in '{shown}'"

/-- The wording of a cause on its own. A malformed name speaks for itself. -/
def message : DescriptorError → String
  | badName fault => fault.message
  | cause => "Malformed descriptor: " ++ cause.detail

end DescriptorError

end ClassGraft
