import RepoVitals.Config.Environment
import RepoVitals.Text.Alphanumeric
import RepoVitals.Text.Blank
import RepoVitals.Text.Bytes
/-!
The filter of the log: which lines a session shows.

Owns:
- the levels of a log;
- directives, each of which sets a level for some part of the log;
- the reading of a filter, where directives that cannot be read are passed over with a remark;
- the choice of the directive that counts for the lines about a failed run.

A directive is a level, or the beginning of the name of a part of the log, perhaps with a span and a
field in brackets, and a level behind an equals sign.  Positions in a directive are counted without
the blanks in front of it, but its parts are cut out of the text with them.
-/

namespace RepoVitals.CommandLine

namespace LogFilter

/-! ### Levels -/

/-- Up to which level lines are shown. -/
inductive Level where
  | off
  | error
  | warn
  | info
  | debug
  | trace
  deriving DecidableEq

namespace Level

/-- All of them, at the numbers that stand for them. -/
def all : List Level := [.off, .error, .warn, .info, .debug, .trace]

/-- The name of a level. -/
def name : Level → String
  | .off => "off"
  | .error => "error"
  | .warn => "warn"
  | .info => "info"
  | .debug => "debug"
  | .trace => "trace"

/-- The number that digits stand for; a plus sign may stand in front of them. -/
def number? (letters : List Char) : Option Nat :=
  let digits := if letters.head? = some '+' then letters.drop 1 else letters
  if digits ≠ [] ∧ digits.all Char.isDigit then
    some (digits.foldl (fun value digit => 10 * value + (digit.toNat - '0'.toNat)) 0)
  else none

/-- The level that a text names, by its number or its name; no text at all names errors. -/
def ofLetters? (letters : List Char) : Option Level :=
  match number? letters with
  | some position => all[position]?
  | none =>
    if letters = [] then some .error
    else all.find? (fun level => level.name.toList = letters.map Char.toLower)

end Level

/-! ### Directives -/

/-- A part of the log and the level that is set for it. -/
structure Directive where
  /-- What the name of the part begins with. -/
  part : Option (List Char)
  /-- Only lines inside a span of this name count. -/
  span : Option (List Char)
  /-- Only lines with this field count, perhaps only with a certain value. -/
  field : Option (List Char × Bool)
  level : Level
  deriving DecidableEq

/-- Why a directive cannot be read. -/
inductive Flaw where
  | malformed
  | unknownLevel
  deriving DecidableEq

/-- The flaw in words. -/
def Flaw.text : Flaw → String
  | .malformed => "invalid filter directive"
  | .unknownLevel =>
    "error parsing level filter: expected one of \"off\", \"error\", \"warn\", \"info\", " ++
      "\"debug\", \"trace\", or a number 0-5"

/-- The letters at certain bytes. -/
def cut (first size : Nat) (letters : List Char) : List Char :=
  Text.takeBytes size (Text.dropBytes first letters)

namespace Directive

/-- The level behind an equals sign at the given byte; no level at all is the last one. -/
def levelAt (whole : List Char) (position : Nat) : Except Flaw Level :=
  match Text.dropBytes position whole with
  | [] => .ok .trace
  | letters =>
    match Level.ofLetters? letters with
    | some level => .ok level
    | none => .error .unknownLevel

/-- The end of a directive behind its brackets. -/
def ofEnding (whole : List Char) (directive : Directive) (position : Nat) :
    List Char → Except Flaw Directive
  | [] => .ok directive
  | '=' :: _ => do return { directive with level := ← levelAt whole (position + 1) }
  | _ => .error .malformed

/-- A field and whether a value of it is given. -/
def fieldOf (letters : List Char) : List Char × Bool :=
  (letters.takeWhile (· ≠ '='), letters.contains '=')

/-- What stands in brackets, after the opening one, at the given byte. -/
def ofBrackets (whole : List Char) (part : Option (List Char)) (position : Nat)
    (letters : List Char) : Except Flaw Directive :=
  let name := letters.takeWhile (fun letter => letter ≠ ']' && letter ≠ '\x7b')
  let span := cut position (Text.byteSize name) whole
  let behind := position + Text.byteSize name + 1
  match letters.drop name.length with
  | ']' :: rest => ofEnding whole ⟨part, some span, none, .trace⟩ behind rest
  | '\x7b' :: rest =>
    let content := rest.takeWhile (· ≠ '\x7d')
    let field := cut behind (Text.byteSize content) whole
    match rest.drop content.length with
    | '\x7d' :: ']' :: ending =>
      if field = [] then .error .malformed
      else
        ofEnding whole
          ⟨part, if span = [] then none else some span, some (fieldOf field), .trace⟩
          (behind + Text.byteSize content + 2) ending
    | _ => .error .malformed
  | _ => .error .malformed

/-- A level alone, or a part of the log with all of its levels. -/
def ofLevelOrPart (letters : List Char) : Directive :=
  match Level.ofLetters? letters with
  | some level => ⟨none, none, none, level⟩
  | none => ⟨some letters, none, none, .trace⟩

/-- The letter may begin a directive. -/
def isFirst (letter : Char) : Bool :=
  letter = '-' || letter = ':' || letter = '_' || Text.isAlphanumeric letter

/-- The directive that letters spell. -/
def ofLetters (whole : List Char) : Except Flaw Directive :=
  match Text.trimBlanks whole with
  | [] => .error .malformed
  | '[' :: rest => ofBrackets whole none 1 rest
  | first :: others =>
    if !isFirst first then .error .malformed
    else
      let name := (first :: others).takeWhile (fun letter => letter ≠ '=' && letter ≠ '[')
      let part := cut 0 (Text.byteSize name) whole
      match (first :: others).drop name.length with
      | '=' :: _ => do
        return ⟨some part, none, none, ← levelAt whole (Text.byteSize name + 1)⟩
      | '[' :: rest => ofBrackets whole (some part) (Text.byteSize name + 1) rest
      | _ => .ok (ofLevelOrPart whole)

/-- The directive counts for lines outside of all spans, in a certain part of the log, that have
this field alone. -/
def isAbout (part field : String) (directive : Directive) : Bool :=
  directive.span.isNone &&
    (match directive.part with
      | some beginning => beginning.isPrefixOf part.toList
      | none => true) &&
    match directive.field with
    | some (name, hasValue) => !hasValue && name = field.toList
    | none => true

/-- How closely a directive says what it is about: by the length of the name of the part, and then
by the field. -/
def closeness (directive : Directive) : Nat :=
  let name := match directive.part with
    | some beginning => Text.byteSize beginning + 1
    | none => 0
  2 * name + if directive.field.isSome then 1 else 0

end Directive

end LogFilter

/-! ### Filters -/

/-- A filter: its directives, and the remarks about those that cannot be read. -/
structure LogFilter where
  directives : List LogFilter.Directive
  remarks : List String
  deriving DecidableEq

namespace LogFilter

/-- The filter that lets errors through. -/
def standard : LogFilter := ⟨[], []⟩

/-- Read one more directive. -/
def add (filter : LogFilter) (letters : List Char) : LogFilter :=
  match Directive.ofLetters letters with
  | .ok directive => { filter with directives := filter.directives ++ [directive] }
  | .error flaw =>
    let remark := "ignoring `" ++ String.ofList letters ++ "`: " ++ flaw.text
    { filter with remarks := filter.remarks ++ [remark] }

/-- The filter that a text spells: directives with commas between them. -/
def ofText (text : String) : LogFilter :=
  let pieces := (text.splitOn ",").filter (· ≠ "")
  pieces.foldl (fun filter piece => filter.add piece.toList) standard

/-- The variable that holds the filter. -/
def variableName : String := "RUST_LOG"

/-- The filter of an environment. -/
def ofEnvironment (environment : Config.Environment) : LogFilter :=
  ((valueUnder? variableName environment).map ofText).getD standard

/-- The level for the lines of a part of the log that have one field.  The closest directive counts,
of equally close ones the last; without any directive errors are shown. -/
def levelFor (filter : LogFilter) (part field : String) : Level :=
  if filter.directives = [] then .error
  else
    let closest := (filter.directives.filter (Directive.isAbout part field)).foldl
      (fun (best : Option Directive) directive =>
        match best with
        | some held => if held.closeness ≤ directive.closeness then some directive else some held
        | none => some directive)
      none
    (closest.map Directive.level).getD .off

/-- The part of the log that tells about a failed run. -/
def sessionPart : String := "pmx_cli"

/-- The lines about a failed run are shown. -/
def showsFailures (filter : LogFilter) : Bool :=
  filter.levelFor sessionPart "message" ≠ .off

/-- Without a filter the lines are shown. -/
theorem showsFailures_standard : standard.showsFailures = true := rfl

end LogFilter

end RepoVitals.CommandLine
