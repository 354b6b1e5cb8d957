import ClassGraft.Descriptor.Error
import ClassGraft.Hierarchy.Listing
import ClassGraft.Settings
import ClassGraft.Text.Quoted
import ClassGraft.Verification.Lattice

/-!
# Diagnostics

A command that fails shows the structure of the failure: constructors with their
arguments, texts in quotes, names and numbers bare.
-/

namespace ClassGraft.CommandLine

/-- Why a file cannot be read. -/
inductive FileFault where
  | missing
  | denied
  | notDirectory
  | isDirectory
  /-- A name on the path has more than 255 bytes, or the path more than 4095. -/
  | nameTooLong
  /-- The file holds bytes that are no text. -/
  | notText
  deriving DecidableEq, Repr

/-- Why a command fails. -/
inductive Failure where
  | name (fault : NameError)
  | descriptor (fault : DescriptorError)
  | listing (fault : ListingError)
  | file (fault : FileFault)
  | settings (fault : SettingsError)
  | verifier (fault : VerifierError)
  deriving DecidableEq

/-! ## Structure in text -/

/-- A constructor with its arguments. -/
def applied (constructor : String) (arguments : List String) : String :=
  constructor ++ "(" ++ String.intercalate ", " arguments ++ ")"

/-- A constructor with named arguments. -/
def record (constructor : String) (fields : List (String × String)) : String :=
  constructor ++ " \x7b "
    ++ String.intercalate ", " (fields.map fun field => field.1 ++ ": " ++ field.2) ++ " \x7d"

/-- A text in quotes. -/
def quotedText (s : String) : String := Text.toStr (Text.quoted s.toList)

/-- The structure of an array type. -/
def showArray (extra : Nat) (element : String) : String :=
  record "ArrayType" [("additional_dimensions", toString extra), ("element_type", element)]

/-- The structure of a reference type. -/
def showRefType : RefType ClassName → String
  | .object cls => applied "Object" [toString cls]
  | .objectArray extra cls => applied "ObjectArray" [showArray extra (toString cls)]
  | .primitiveArray extra element => applied "PrimitiveArray" [showArray extra element.name]

/-- The structure of a verification type. -/
def showType : VerificationType → String
  | .integer => "Integer"
  | .float => "Float"
  | .double => "Double"
  | .long => "Long"
  | .null => "Null"
  | .reference type => applied "Object" [showRefType type]

/-! ## Failures -/

/-- The structure of a fault that the system reported, by its number, kind and
wording. -/
def showSystemFault (code : Nat) (kind message : String) : String :=
  record "Os" [("code", toString code), ("kind", kind), ("message", quotedText message)]

/-- The structure of a fault with a file. -/
def showFileFault : FileFault → String
  | .missing => showSystemFault 2 "NotFound" "No such file or directory"
  | .denied => showSystemFault 13 "PermissionDenied" "Permission denied"
  | .notDirectory => showSystemFault 20 "NotADirectory" "Not a directory"
  | .isDirectory => showSystemFault 21 "IsADirectory" "Is a directory"
  | .nameTooLong => showSystemFault 36 "InvalidFilename" "File name too long"
  | .notText =>
    record "Error"
      [("kind", "InvalidData"), ("message", quotedText "stream did not contain valid UTF-8")]

/-- The structure of a fault with a name. -/
def showNameError (fault : NameError) : String := applied "MalformedName" [quotedText fault.message]

/-- The structure of a refusal of the class graph. -/
def showHierarchyError : HierarchyError → String
  | .missingClass name => applied "MissingClass" [quotedText (toString name)]
  | .duplicateClass name => applied "DuplicateClass" [quotedText (toString name)]

/-- The structure of a fault about classes and their types. -/
def showListingError : ListingError → String
  | .malformedLine number cause =>
    record "MalformedListing"
      [("line", toString number), ("message", quotedText cause.message)]
  | .refused refusal => showHierarchyError refusal

/-- The structure of a fault with a descriptor. -/
def showDescriptorError : DescriptorError → String
  | .badName fault => showNameError fault
  | fault => applied "MalformedDescriptor" [quotedText fault.detail]

/-- The structure of a question that the verifier does not answer. -/
def showVerifierError : VerifierError → String
  | .incompatibleTypes a b => applied "IncompatibleTypes" [showType a, showType b]
  | .missingClass name => applied "MissingClass" [quotedText (toString name)]
  | .liveLoading type => applied "LiveClassLoading" [quotedText (toString type)]

/-- The structure of a failure. -/
def Failure.render : Failure → String
  | name fault => applied "JvmError" [showNameError fault]
  | descriptor fault => applied "JvmError" [showDescriptorError fault]
  | listing fault => applied "JvmError" [showListingError fault]
  | file fault => applied "JvmError" [applied "IoError" [showFileFault fault]]
  | settings fault => applied "InvalidSettings" [quotedText fault.detail]
  | verifier fault => applied "VerifierError" [showVerifierError fault]

end ClassGraft.CommandLine
