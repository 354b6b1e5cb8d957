import ClassGraft.CommandLine.Arguments

/-!
# Commands

Four commands: three hand out names as a merge would, the last joins two types
over a hierarchy listing. Before the command only the version and help can be
asked for. Defaults: one name, the target `mixin/Target`, the word `handler`, the
descriptor `()V`.
-/

namespace ClassGraft.CommandLine

/-- What the commands that hand out names have in common. -/
structure NameRequest where
  /-- Source id, to be cleaned. -/
  source : Option Text
  /-- How many names to hand out in a row. -/
  count : Nat
  /-- Name of the target, not checked yet. -/
  target : Text
  /-- Name that the member is declared with. -/
  name : Text
  deriving DecidableEq

/-- What a command line asks for. -/
inductive Command where
  | handlerNames (request : NameRequest) (word descriptor : Text) (isSurrogate : Bool)
  | uniqueMethods (request : NameRequest) (session : Option Text) (keepsStart : Bool)
  | uniqueFields (request : NameRequest) (session : Option Text)
  | supertype (listing first second : Text)
  deriving DecidableEq

/-! ## Grammars -/

/-- The commands by their names. -/
inductive CommandName where
  | handlerName
  | uniqueMethod
  | uniqueField
  | supertype
  deriving DecidableEq, Repr

namespace CommandName

/-- All commands. -/
def all : List CommandName := [handlerName, uniqueMethod, uniqueField, supertype]

/-- The word that calls for the command. -/
def word : CommandName → String
  | handlerName => "handler-name"
  | uniqueMethod => "unique-method"
  | uniqueField => "unique-field"
  | supertype => "supertype"

/-- The command that a word calls for. -/
def ofWord? (t : Text) : Option CommandName := all.find? fun c => Text.ofString c.word == t

/-- An option whose value is any text. -/
def textOption (name : String) : ValuedOption := { name := Text.ofString name }

/-- The options of all commands that hand out names. -/
def nameOptions : List ValuedOption :=
  [textOption "source-id", { name := Text.ofString "count", isNumber := true },
    textOption "target"]

/-- What the command understands. -/
def grammar : CommandName → Grammar
  | handlerName =>
    { options := nameOptions ++ [textOption "prefix", textOption "descriptor"]
      switches := [Text.ofString "surrogate"]
      positionals := 1 }
  | uniqueMethod =>
    { options := nameOptions ++ [textOption "session"]
      switches := [Text.ofString "preserve-prefix"]
      positionals := 1 }
  | uniqueField => { options := nameOptions ++ [textOption "session"], positionals := 1 }
  | supertype => { positionals := 3 }

/-- The value of an option, or what it is when the option is not given. -/
def valueOr (m : Matches) (name default : String) : Text :=
  (m.value? (Text.ofString name)).getD (Text.ofString default)

/-- The positional argument at an index. -/
def positional (m : Matches) (index : Nat) : Text := m.positionals.getD index []

/-- What the arguments ask about names. -/
def nameRequest (m : Matches) : NameRequest where
  source := m.value? (Text.ofString "source-id")
  count := ((m.value? (Text.ofString "count")).bind number?).getD 1
  target := valueOr m "target" "mixin/Target"
  name := positional m 0

/-- The command with its arguments. -/
def command (m : Matches) : CommandName → Command
  | handlerName =>
    .handlerNames (nameRequest m) (valueOr m "prefix" "handler")
      (valueOr m "descriptor" "()V") (m.isOn (Text.ofString "surrogate"))
  | uniqueMethod =>
    .uniqueMethods (nameRequest m) (m.value? (Text.ofString "session"))
      (m.isOn (Text.ofString "preserve-prefix"))
  | uniqueField => .uniqueFields (nameRequest m) (m.value? (Text.ofString "session"))
  | supertype => .supertype (positional m 0) (positional m 1) (positional m 2)

end CommandName

/-! ## Command lines -/

/-- Read the words behind the call for help: one of them may name a command or
help itself, and neither has commands of its own that a second word could name. -/
def readHelp : List Text → Stop
  | [] => .help
  | word :: rest =>
    if word = helpName ∨ (CommandName.ofWord? word).isSome then
      match rest with
      | [] => .help
      | extra :: _ => .usage (.unknownCommand extra)
    else .usage (.unknownCommand word)

/-- What a command line asks for. -/
def Command.parse : List Text → Except Stop Command
  | [] => .error (.usage .missingCommand)
  | word :: rest =>
    match shapeOf word with
    | .endOfOptions => .error (.usage .missingCommand)
    | .short letter =>
      if letter = 'h' then .error .help
      else if letter = 'V' then .error .version
      else .error (.usage (.unknownOption word))
    | .long name value =>
      if name = helpName ∨ name = Text.ofString "version" then
        if value.isSome then .error (.usage (.unexpectedValue name))
        else .error (if name = helpName then .help else .version)
      else .error (.usage (.unknownOption word))
    | .plain =>
      if word = helpName then .error (readHelp rest)
      else match CommandName.ofWord? word with
        | none => .error (.usage (.unknownCommand word))
        | some name => do return name.command (← name.grammar.parse rest)

/-- The listing file that a command needs. -/
def Command.listing? : Command → Option Text
  | .supertype listing _ _ => some listing
  | _ => none

end ClassGraft.CommandLine
