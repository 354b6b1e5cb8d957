import ClassGraft.Text.Hex

/-!
# Fragments of generated names

The pieces that generated names are glued together from, and the one piece that
is taken off: letters for the id of a class, digits for a number, the tail of the
session id, the start of the source id, and a member name without the source id
that its author put in front of it.
-/

namespace ClassGraft.Naming

/-! ## Numbers -/

/-- The letter for a value below sixteen, from `a` to `p`. -/
def idLetter (d : Nat) : Char := Char.ofNat (0x61 + d)

/-- The id of a class in letters: a numeral to the base sixteen, brought to three
letters by `z`, which is no digit. -/
def classLetters (id : Nat) : Text := Text.padLeft 3 'z' (Text.base16 idLetter id)

/-- The number of an occurrence: at least three hexadecimal digits. -/
def occurrenceDigits (n : UInt32) : Text := Text.padLeft 3 '0' (Text.hex n.toNat)

/-! ## Sessions and sources -/

/-- Generated names use the session id from this byte on. -/
def sessionSkip : Nat := 30

/-- The part of a session id that goes into generated names. An id that is too
short to have such a part, or that has a character across the cut, goes in whole. -/
def sessionTail (session : Text) : Text :=
  match Text.dropBytes? sessionSkip session with
  | none => session
  | some [] => session
  | some (c :: tail) => c :: tail

/-- Source ids are cut to this many characters. -/
def sourceLength : Nat := 12

/-- The part of a source id that goes into generated names; nothing without one. -/
def sourceNamespace (source : Option Text) : Text := (source.getD []).take sourceLength

/-! ## Names without their source -/

/-- Does the character separate a source id from the rest of a name? -/
def isSeparator (c : Char) : Bool := c == '_' || c == '$'

/-- The name without a source id and a separator in front, unless nothing would
be left. -/
def stripSource (name source : Text) : Text :=
  if source = [] then name
  else match source.isPrefixOf? name with
    | some (c :: d :: rest) => if isSeparator c then d :: rest else name
    | _ => name

/-- The source id with the separator that follows it in names; nothing without one. -/
def sourceMark (source : Text) : Text := if source = [] then [] else source ++ ['$']

end ClassGraft.Naming
