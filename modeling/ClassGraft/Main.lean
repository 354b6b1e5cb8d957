import ClassGraft.CommandLine.Run

/-!
# The program

Everything that touches the outside: the words of the command line, the listing
file, randomness, and the two outputs. What they come to is decided by
`CommandLine.run`.
-/

namespace ClassGraft.CommandLine

/-- The fault that a failed read of a file comes down to. Two kinds of failure
hold several faults, which the number that the system reports tells apart. -/
def FileFault.ofError : IO.Error → FileFault
  | .permissionDenied .. => .denied
  | .inappropriateType _ number _ => if number = 20 then .notDirectory else .isDirectory
  | .invalidArgument _ number _ => if number = 36 then .nameTooLong else .missing
  | _ => .missing

/-- The text of a file. -/
def readText (path : String) : IO (Except FileFault Text) := do
  try
    let bytes ← IO.FS.readBinFile path
    match String.fromUTF8? bytes with
    | some text => return .ok text.toList
    | none => return .error .notText
  catch fault => return .error (.ofError fault)

/-- A number made of random bytes. -/
def randomNumber : IO Nat := do
  let bytes ← IO.getRandomBytes 16
  return bytes.toList.foldl (fun n byte => 256 * n + byte.toNat) 0

/-- The texts of the files that a command line needs. -/
def neededFiles (words : List Text) : IO (Text → Except FileFault Text) := do
  match Command.parse words with
  | .ok command =>
    match command.listing? with
    | some path =>
      let text ← readText (Text.toStr path)
      return fun _ => text
    | none => return fun _ => .error .missing
  | .error _ => return fun _ => .error .missing

end ClassGraft.CommandLine

open ClassGraft CommandLine in
/-- Runs the command line. -/
def main (arguments : List String) : IO UInt32 := do
  let words := arguments.map Text.ofString
  let files ← neededFiles words
  let outcome := run words files (← randomNumber)
  IO.print outcome.stdout
  IO.eprint outcome.stderr
  return outcome.status.toUInt32
