import ClassGraft.Text.Decimal

/-!
# Arguments

Reading the words of a command line from left to right. A word that starts with
a hyphen is an option, unless it is a lone hyphen or follows a `--` that ends the
options; every other word is a positional argument. Options with a value take it
behind an equals sign or as the next word, and that word must not look like an
option. Nothing may be given twice. The first fault decides; a request for help
that comes before it wins.
-/

namespace ClassGraft.CommandLine

/-- An option that takes a value. -/
structure ValuedOption where
  name : Text
  /-- Must the value be a number? -/
  isNumber : Bool := false
  deriving DecidableEq

/-- What a command understands. -/
structure Grammar where
  options : List ValuedOption := []
  switches : List Text := []
  /-- How many positional arguments it takes; all of them are needed. -/
  positionals : Nat
  deriving DecidableEq

/-- What is wrong with a command line. -/
inductive UsageError where
  | missingCommand
  | unknownCommand (word : Text)
  | unknownOption (word : Text)
  | repeatedOption (name : Text)
  | missingValue (name : Text)
  | unexpectedValue (name : Text)
  /-- The value is no number that fits into 64 bits. -/
  | badNumber (name value : Text)
  | unexpectedArgument (word : Text)
  | missingArgument
  deriving DecidableEq

/-- The wording of a fault. -/
def UsageError.message : UsageError → String
  | missingCommand => "a command is needed"
  | unknownCommand word =>
    let shown := Text.toStr word
    s!"unknown command '{shown}'"
  | unknownOption word =>
    let shown := Text.toStr word
    s!"unknown option '{shown}'"
  | repeatedOption name =>
    let shown := Text.toStr name
    s!"option '--{shown}' is given twice"
  | missingValue name =>
    let shown := Text.toStr name
    s!"option '--{shown}' needs a value"
  | unexpectedValue name =>
    let shown := Text.toStr name
    s!"option '--{shown}' takes no value"
  | badNumber name value =>
    let shown := Text.toStr name
    let given := Text.toStr value
    s!"option '--{shown}' needs a number, not '{given}'"
  | unexpectedArgument word =>
    let shown := Text.toStr word
    s!"unexpected argument '{shown}'"
  | missingArgument => "an argument is missing"

/-- Why reading a command line stops before its end. -/
inductive Stop where
  | help
  | version
  | usage (fault : UsageError)
  deriving DecidableEq

/-- The arguments of a command. -/
structure Matches where
  values : List (Text × Text) := []
  switches : List Text := []
  positionals : List Text := []
  deriving DecidableEq

namespace Matches

/-- The value of an option. -/
def value? (m : Matches) (name : Text) : Option Text := m.values.lookup name

/-- Is the switch on? -/
def isOn (m : Matches) (name : Text) : Bool := name ∈ m.switches

/-- Does the option or the switch occur? -/
def mentions (m : Matches) (name : Text) : Bool := (m.value? name).isSome || m.isOn name

end Matches

/-- Numbers have to fit into 64 bits. -/
def number? (value : Text) : Option Nat :=
  (Text.unsigned? value).filter fun n => n ≤ 0xFFFFFFFFFFFFFFFF

/-- What a word looks like. -/
inductive Shape where
  /-- The word that ends the options. -/
  | endOfOptions
  | long (name : Text) (value : Option Text)
  /-- One hyphen and the letter after it. -/
  | short (letter : Char)
  | plain
  deriving DecidableEq

/-- The shape of a word. -/
def shapeOf : Text → Shape
  | ['-', '-'] => .endOfOptions
  | '-' :: '-' :: body =>
    match body.dropWhile (· != '=') with
    | [] => .long body none
    | _ :: value => .long (body.takeWhile (· != '=')) (some value)
  | '-' :: letter :: _ => .short letter
  | _ => .plain

/-- The name of the option that asks for help. -/
def helpName : Text := Text.ofString "help"

namespace Grammar

/-- The option with this name. -/
def option? (g : Grammar) (name : Text) : Option ValuedOption :=
  g.options.find? fun o => o.name == name

/-- Take the value of an option. -/
def addValue (m : Matches) (o : ValuedOption) (value : Text) : Except Stop Matches :=
  if m.mentions o.name then .error (.usage (.repeatedOption o.name))
  else if o.isNumber && (number? value).isNone then .error (.usage (.badNumber o.name value))
  else .ok { m with values := m.values ++ [(o.name, value)] }

/-- Turn a switch on. -/
def addSwitch (m : Matches) (name : Text) : Except Stop Matches :=
  if m.mentions name then .error (.usage (.repeatedOption name))
  else .ok { m with switches := m.switches ++ [name] }

/-- Take a positional argument. -/
def addPositional (g : Grammar) (m : Matches) (word : Text) : Except Stop Matches :=
  if m.positionals.length < g.positionals then
    .ok { m with positionals := m.positionals ++ [word] }
  else .error (.usage (.unexpectedArgument word))

/-- Read words; `isOpen` tells whether options may still come. -/
def scan (g : Grammar) (isOpen : Bool) (m : Matches) : List Text → Except Stop Matches
  | [] => .ok m
  | word :: rest =>
    match if isOpen then shapeOf word else .plain with
    | .plain => do g.scan isOpen (← g.addPositional m word) rest
    | .endOfOptions => g.scan false m rest
    | .short letter =>
      if letter = 'h' then .error .help else .error (.usage (.unknownOption word))
    | .long name value =>
      match g.option? name, value with
      | some o, some value => do g.scan isOpen (← addValue m o value) rest
      | some o, none =>
        match rest with
        | [] => .error (.usage (.missingValue name))
        | value :: rest =>
          -- A value that looks like an option has to be given behind an equals sign.
          if shapeOf value = .plain then do g.scan isOpen (← addValue m o value) rest
          else .error (.usage (.missingValue name))
      | none, value =>
        if name = helpName ∨ name ∈ g.switches then
          if value.isSome then .error (.usage (.unexpectedValue name))
          else if name = helpName then .error .help
          else do g.scan isOpen (← addSwitch m name) rest
        else .error (.usage (.unknownOption word))

/-- The arguments that the words make up, none of the needed ones missing. -/
def parse (g : Grammar) (words : List Text) : Except Stop Matches := do
  let m ← g.scan true {} words
  if m.positionals.length < g.positionals then throw (.usage .missingArgument)
  return m

end Grammar

end ClassGraft.CommandLine
