import ClassGraft.CommandLine.Command
import ClassGraft.CommandLine.Diagnostic
import ClassGraft.Descriptor.Reader
import ClassGraft.Naming.Allocator

/-!
# Running a command

A run is a function of the command line, of the files it may read, and of the
randomness for a fresh session. It answers with an exit status and what goes to
the two outputs: status 0 with the answer, 1 with a failure, 2 with a command
line that was not understood.
-/

namespace ClassGraft.CommandLine

/-- What a run leaves behind. -/
structure Outcome where
  status : Nat
  stdout : String := ""
  stderr : String := ""
  deriving DecidableEq, Repr

/-! ## Names in a row -/

/-- The answers of as many steps in a row, behind those given before. -/
def answersFrom {σ : Type} (step : σ → Text × σ) : Nat → σ → List Text → List Text
  | 0, _, before => before.reverse
  | n + 1, state, before => answersFrom step n (step state).2 ((step state).1 :: before)

/-- The answers of as many steps in a row. -/
def answers {σ : Type} (step : σ → Text × σ) (n : Nat) (state : σ) : List Text :=
  answersFrom step n state []

/-! ## Commands -/

/-- The source id of a request, as it may stand in names. -/
def NameRequest.sourceId (r : NameRequest) : Option Text :=
  { name := "cli", source := r.source : MixinConfig }.sourceId

/-- The target of a request. -/
def NameRequest.targetName (r : NameRequest) : Except Failure ClassName :=
  (ClassName.ofText r.target).mapError .name

/-- The settings of a session, given or fresh. -/
def settingsOf (random : Nat) : Option Text → Except Failure Settings
  | none => .ok (.fresh random)
  | some session => (Settings.withSession session).mapError .settings

/-- The type that an argument describes; `null` is the type of the null constant. -/
def readType (t : Text) : Except Failure VerificationType :=
  if t = Text.ofString "null" then .ok .null
  else (FieldType.parse t).map .ofFieldType |>.mapError .descriptor

/-- The lines that a command answers with. -/
def Command.answer (c : Command) (files : Text → Except FileFault Text) (random : Nat) :
    Except Failure (List Text) :=
  match c with
  | .handlerNames r word descriptor isSurrogate => do
    let target ← r.targetName
    let step (reg : Registry) : Text × Registry :=
      (Allocator.new target).handlerName reg r.sourceId word r.name descriptor isSurrogate
    return answers step r.count .empty
  | .uniqueMethods r session keepsStart => do
    let settings ← settingsOf random session
    let target ← r.targetName
    let step (a : Allocator) : Text × Allocator :=
      a.uniqueMethod r.sourceId settings.session r.name keepsStart
    return answers step r.count (.new target)
  | .uniqueFields r session => do
    let settings ← settingsOf random session
    let target ← r.targetName
    let step (a : Allocator) : Text × Allocator :=
      a.uniqueField r.sourceId settings.session r.name
    return answers step r.count (.new target)
  | .supertype listing first second => do
    let text ← (files listing).mapError .file
    let graph ← (ClassGraph.ofListing text).mapError .listing
    let a ← readType first
    let b ← readType second
    let join ← (graph.commonSupertype a b).mapError .verifier
    return [join.render]

/-! ## Runs -/

/-- The name and the version of the program. -/
def versionLine : String := "Mixin merge tool 0.1.0"

/-- How to call the program. -/
def usageText : String :=
  "Allocate merged member names and query the offline verifier\n\n"
    ++ "Usage: <COMMAND> <ARGUMENTS>\n\n"
    ++ "Commands:\n"
    ++ "  handler-name   Allocate injector handler names\n"
    ++ "  unique-method  Allocate names for clashing unique methods\n"
    ++ "  unique-field   Allocate names for clashing unique fields\n"
    ++ "  supertype      Compute the common supertype of two types in a class hierarchy listing\n"

/-- What is left behind where reading the command line stops. -/
def Stop.outcome : Stop → Outcome
  | .help => { status := 0, stdout := usageText }
  | .version => { status := 0, stdout := versionLine ++ "\n" }
  | .usage fault => { status := 2, stderr := "error: " ++ fault.message ++ "\n" }

/-- What a command leaves behind. -/
def Command.run (c : Command) (files : Text → Except FileFault Text) (random : Nat) : Outcome :=
  match c.answer files random with
  | .ok lines => { status := 0, stdout := Text.toStr (lines.flatMap fun line => line ++ ['\n']) }
  | .error failure => { status := 1, stderr := "Error: " ++ failure.render ++ "\n" }

/-- What a command line leaves behind. -/
def run (words : List Text) (files : Text → Except FileFault Text) (random : Nat) : Outcome :=
  match Command.parse words with
  | .error stop => stop.outcome
  | .ok command => command.run files random

end ClassGraft.CommandLine
