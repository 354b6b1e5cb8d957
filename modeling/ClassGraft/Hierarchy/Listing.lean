import ClassGraft.Hierarchy.Basic
import ClassGraft.Text.Blank

/-!
# Hierarchy listings

A listing declares one type a line:

    [mixin] class <name> [extends <superclass>] [implements <interface>, ...]
    [mixin] interface <name> [extends <interface>, ...]

Words are separated by blanks and commas; blank lines and lines that start with
`#` say nothing. A class that extends nothing extends the root, as every
interface does. The library types are always declared, and a line for the root
itself is read but adds nothing.

The first line that is not understood, or that declares a class again, decides
the outcome.
-/

namespace ClassGraft

/-- Why a line of a listing is not understood. -/
inductive LineError where
  /-- A word other than `class` or `interface` in their place. -/
  | expectedKind (found : Text)
  | missingKind
  | missingName
  | badName (fault : NameError)
  | secondSuperclass (name : ClassName)
  /-- A name that no clause has a place for. -/
  | unexpectedToken (name : ClassName)
  deriving DecidableEq

/-- The wording of what is wrong with a line. -/
def LineError.message : LineError → String
  | expectedKind found =>
    let shown := Text.toStr found
    s!"Expected 'class' or 'interface', found '{shown}'"
  | missingKind => "Missing type kind"
  | missingName => "Missing type name"
  | badName fault => fault.message
  | secondSuperclass name => s!"Class {name} has more than one superclass"
  | unexpectedToken name => s!"Unexpected token '{name}'"

/-- Why a listing describes no graph. -/
inductive ListingError where
  /-- The line with this number, from one on, is not understood. -/
  | malformedLine (number : Nat) (cause : LineError)
  /-- A line declares a class that is there already. -/
  | refused (refusal : HierarchyError)
  deriving DecidableEq

/-- The wording of the fault in a listing. -/
def ListingError.message : ListingError → String
  | malformedLine number cause =>
    let shown := cause.message
    s!"Malformed hierarchy listing (line {number}): {shown}"
  | refused refusal => refusal.message

namespace Listing

/-! ## Words -/

/-- The lines of a listing. -/
def lines (listing : Text) : List Text := Text.splitOn '\n' listing

/-- Does the line say nothing? The line has no blanks at its ends. -/
def isSilent (line : Text) : Bool := line.isEmpty || line.head? == some '#'

/-- The words of a line. -/
def tokens (line : Text) : List Text :=
  (Text.splitWhere (fun c => Text.isBlank c || c == ',') line).filter fun t => !t.isEmpty

/-! ## Clauses -/

/-- What the names at some place of a line are for. -/
inductive Clause where
  /-- Nothing: no clause has begun. -/
  | opening
  | superclass
  | interfaces
  deriving DecidableEq, Repr

/-- The clause that a keyword begins. What an interface extends are interfaces,
and interfaces implement nothing. -/
def clauseOf? (isInterface : Bool) (token : Text) : Option Clause :=
  if token = Text.ofString "extends" then
    some (if isInterface then .interfaces else .superclass)
  else if token = Text.ofString "implements" ∧ isInterface = false then some .interfaces
  else none

/-- A declaration of which some words have been read. -/
structure Draft where
  /-- The entry so far. -/
  entry : ClassEntry
  /-- What the next name is for. -/
  clause : Clause := .opening
  /-- Has a superclass been named? -/
  namedSuperclass : Bool := false
  deriving DecidableEq

/-- Take one more name into a declaration. -/
def Draft.addName (d : Draft) (name : ClassName) : Except LineError Draft :=
  match d.clause with
  | .opening => .error (.unexpectedToken name)
  | .interfaces => .ok { d with entry := d.entry.addInterface name }
  | .superclass =>
    if d.namedSuperclass then .error (.secondSuperclass d.entry.name)
    else .ok { d with entry := { d.entry with superclass := some name }, namedSuperclass := true }

/-- Take one more word into a declaration. -/
def Draft.addToken (d : Draft) (token : Text) : Except LineError Draft :=
  match clauseOf? d.entry.isInterface token with
  | some clause => .ok { d with clause := clause }
  | none =>
    match ClassName.ofText token with
    | .ok name => d.addName name
    | .error fault => .error (.badName fault)

/-! ## Declarations -/

/-- The declaration that starts with its kind; `isMixin` says what stood before. -/
def readDeclaration (isMixin : Bool) : List Text → Except LineError ClassEntry
  | [] => .error .missingKind
  | kind :: rest =>
    if kind = Text.ofString "class" ∨ kind = Text.ofString "interface" then
      match rest with
      | [] => .error .missingName
      | name :: clauses =>
        match ClassName.ofText name with
        | .error fault => .error (.badName fault)
        | .ok name =>
          let entry : ClassEntry :=
            { name := name
              superclass := some .object
              isInterface := kind == Text.ofString "interface"
              isMixin := isMixin }
          (clauses.foldlM Draft.addToken { entry := entry }).map Draft.entry
    else .error (.expectedKind kind)

/-- The declaration that the words of a line make up. -/
def readTokens : List Text → Except LineError ClassEntry
  | [] => .error .missingKind
  | token :: rest =>
    if token = Text.ofString "mixin" then readDeclaration true rest
    else readDeclaration false (token :: rest)

/-- Take one numbered line into a graph. -/
def addLine (g : ClassGraph) (line : Text × Nat) : Except ListingError ClassGraph :=
  let text := Text.trim line.1
  if isSilent text then .ok g
  else match readTokens (tokens text) with
    | .error cause => .error (.malformedLine line.2 cause)
    | .ok entry =>
      if entry.name = .object then .ok g
      else match g.add entry with
        | .ok g => .ok g
        | .error refusal => .error (.refused refusal)

end Listing

/-- The graph that a listing describes. -/
def ClassGraph.ofListing (listing : Text) : Except ListingError ClassGraph :=
  ((Listing.lines listing).zipIdx 1).foldlM Listing.addLine .library

end ClassGraft
