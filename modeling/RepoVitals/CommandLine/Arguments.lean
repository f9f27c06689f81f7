import RepoVitals.Calendar.Reading
import RepoVitals.Errand
/-!
The arguments of the command line.

Owns:
- the options and the texts they are written as;
- what a list of arguments asks for: a run, the version, or help;
- the misuses, in words.

Arguments are read from left to right, and the first one that ends the reading or cannot be read
decides.  The value of an option is the next argument, unless that starts with a hyphen, or stands
behind an equals sign.  Families and repositories may be given more than once.
-/

namespace RepoVitals.CommandLine

open Calendar (Date)
open Catalogue (Family)

/-- An option that takes a value. -/
inductive ValueOption where
  | config
  | family
  | date
  | repo
  deriving DecidableEq

namespace ValueOption

/-- All of them. -/
def all : List ValueOption := [.config, .family, .date, .repo]

/-- The name that is written after two hyphens. -/
def name : ValueOption → String
  | .config => "config"
  | .family => "family"
  | .date => "date"
  | .repo => "repo"

/-- The option and its value as they stand in messages. -/
def usage : ValueOption → String
  | .config => "--config <CONFIG>"
  | .family => "--family <FAMILIES>"
  | .date => "--date <DATE>"
  | .repo => "--repo <REPOSITORIES>"

end ValueOption

/-- What is asked for, as far as it has been read. -/
structure Wishes where
  config : Option String
  families : List Family
  date : Option Date
  repositories : List String
  deriving DecidableEq

/-- Nothing asked for. -/
def Wishes.none : Wishes := ⟨.none, [], .none, []⟩

/-- A list of arguments that cannot be read. -/
inductive Misuse where
  | unexpected (argument : String)
  | missingValue (option : ValueOption)
  | unexpectedValue (flag value : String)
  | invalidValue (option : ValueOption) (value : String)
  | repeated (option : ValueOption)
  deriving DecidableEq

/-- The misuse in words. -/
def Misuse.text : Misuse → String
  | .unexpected argument => "error: unexpected argument '" ++ argument ++ "' found"
  | .missingValue option =>
    "error: a value is required for '" ++ option.usage ++ "' but none was supplied"
  | .unexpectedValue flag value =>
    "error: unexpected value '" ++ value ++ "' for '" ++ flag ++ "' found; no more were expected"
  | .invalidValue option value =>
    "error: invalid value '" ++ value ++ "' for '" ++ option.usage ++ "'"
  | .repeated option =>
    "error: the argument '" ++ option.usage ++ "' cannot be used multiple times"

/-- What a list of arguments asks for. -/
inductive Command where
  | run (wishes : Wishes)
  | version
  | help
  deriving DecidableEq

/-- Take in the value of an option. -/
def Wishes.set (wishes : Wishes) (option : ValueOption) (value : String) :
    Except Misuse Wishes :=
  match option with
  | .config =>
    if wishes.config.isSome then .error (.repeated option)
    else if value = "" then .error (.invalidValue option value)
    else .ok { wishes with config := some value }
  | .family =>
    match Family.ofName? value with
    | some family => .ok { wishes with families := wishes.families ++ [family] }
    | .none => .error (.invalidValue option value)
  | .date =>
    if wishes.date.isSome then .error (.repeated option)
    else
      match Date.ofText? value with
      | some date => .ok { wishes with date := some date }
      | .none => .error (.invalidValue option value)
  | .repo => .ok { wishes with repositories := wishes.repositories ++ [value] }

/-- An argument by its shape. -/
inductive Shape where
  /-- It starts with two hyphens; a value may follow behind an equals sign. -/
  | long (name : String) (value : Option String)
  /-- It starts with one hyphen. -/
  | short (first : Char)
  /-- Two hyphens alone. -/
  | separator
  | plain
  deriving DecidableEq

/-- The shape of an argument. -/
def shapeOf (argument : String) : Shape :=
  match argument.toList with
  | ['-', '-'] => .separator
  | '-' :: '-' :: rest =>
    let name := String.ofList (rest.takeWhile (· ≠ '='))
    match rest.dropWhile (· ≠ '=') with
    | _ :: value => .long name (some (String.ofList value))
    | [] => .long name .none
  | '-' :: first :: _ => .short first
  | _ => .plain

/-- The command that a flag without a value asks for. -/
def commandOf? (name : String) : Option Command :=
  if name = "version" then some .version
  else if name = "help" then some .help
  else .none

/-- Read arguments; `pending` is an option whose value comes next. -/
def readFrom (wishes : Wishes) (pending : Option ValueOption) :
    List String → Except Misuse Command
  | [] =>
    match pending with
    | some option => .error (.missingValue option)
    | .none => .ok (.run wishes)
  | argument :: rest =>
    match pending, shapeOf argument with
    | some option, .plain => do readFrom (← wishes.set option argument) .none rest
    | some option, _ => .error (.missingValue option)
    | .none, .plain => .error (.unexpected argument)
    | .none, .separator =>
      match rest with
      | [] => .ok (.run wishes)
      | surplus :: _ => .error (.unexpected surplus)
    | .none, .short 'V' => .ok .version
    | .none, .short 'h' => .ok .help
    | .none, .short _ => .error (.unexpected argument)
    | .none, .long name value =>
      match commandOf? name, value with
      | some command, .none => .ok command
      | some _, some surplus => .error (.unexpectedValue ("--" ++ name) surplus)
      | .none, _ =>
        match ValueOption.all.find? (fun option => option.name = name), value with
        | .none, _ => .error (.unexpected argument)
        | some option, some given => do readFrom (← wishes.set option given) .none rest
        | some option, .none => readFrom wishes (some option) rest

/-- What a list of arguments asks for. -/
def Command.ofArguments (arguments : List String) : Except Misuse Command :=
  readFrom .none .none arguments

/-- The errand of a run, on the day given unless another one is asked for.  No families and no
repositories leave the choice to the configuration. -/
def Wishes.errand (wishes : Wishes) (today : Date) : Errand where
  date := wishes.date.getD today
  families := if wishes.families.isEmpty then .none else some wishes.families
  repositories := if wishes.repositories.isEmpty then .none else some wishes.repositories

end RepoVitals.CommandLine
