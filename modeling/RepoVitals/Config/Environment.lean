import RepoVitals.Config.Literal
/-!
Settings from environment variables.

Owns:
- the path of keys that the name of a variable stands for;
- the settings of a whole environment, where of two variables with one path the later one counts.

A name counts if it starts with `PMX_` in any case.  What follows is split at double underscores and
dots; a name with an empty key in its path does not count.
-/

namespace RepoVitals.Config

/-- The variables of an environment with their values, in order. -/
abbrev Environment := List (String × String)

/-- What the names of settings start with, in lower case. -/
def namePrefix : List Char := ['p', 'm', 'x', '_']

/-- Write two underscores in a row as a dot. -/
def dotted : List Char → List Char
  | '_' :: '_' :: rest => '.' :: dotted rest
  | letter :: rest => letter :: dotted rest
  | [] => []

/-- Split at the dots. -/
def splitAtDots (letters : List Char) : List (List Char) :=
  letters.foldr
    (fun letter keys =>
      if letter = '.' then [] :: keys
      else
        match keys with
        | key :: rest => (letter :: key) :: rest
        | [] => [[letter]])
    [[]]

/-- The path of keys that a name stands for. -/
def pathOfName? (name : String) : Option (List String) :=
  let lowered := (Text.trimBlanks name.toList).map Char.toLower
  if namePrefix.isPrefixOf lowered then
    let keys := splitAtDots (Text.trimBlanks (dotted (lowered.drop namePrefix.length)))
    if keys.any List.isEmpty then none else some (keys.map String.ofList)
  else none

/-- The settings of an environment. -/
def Setting.ofEnvironment (environment : Environment) : Setting :=
  environment.foldl
    (fun held entry =>
      match pathOfName? entry.1 with
      | some path => held.overlay (Setting.nested path (.ofLiteral entry.2))
      | none => held)
    (.table [])

end RepoVitals.Config
