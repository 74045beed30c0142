import Montage.Folder
import Montage.Settings

/-!
# Loading settings

Which file the settings are read from, and what can be wrong with it.
-/

namespace Montage.Settings

/-- Where a run looks for its settings. -/
structure Search where
  /-- The path that was asked for. -/
  explicit : Option String
  /-- The value of the environment variable for the path. -/
  fromEnvironment : String
  /-- The home folder of the user. -/
  home : String

def userFile (home : String) : String :=
  .ofList (home.toList.reverse.dropWhile (· == '/')).reverse ++ "/.config/ffvid/config.yaml"

/-- The path of the settings file: the one that was asked for, or the one of the environment, or the
user's own if it exists. -/
def Search.path? (search : Search) (folder : Folder) : Option String :=
  match search.explicit with
  | some path => some path
  | none =>
    if search.fromEnvironment ≠ "" then some search.fromEnvironment
    else if (folder.read? (userFile search.home)).isSome then some (userFile search.home)
    else none

/-- The greatest size of a settings file, in bytes. -/
def sizeLimit : Nat := 1000000

variable (read : Yaml.Reader)

/-- The entries of the mapping that a settings file holds; an empty file has none. -/
def entriesOf (bytes : ByteArray) : Except Failure (List (Yaml.Scalar × Yaml.Content)) :=
  match read bytes with
  | .error (.notYaml detail) => .error (.setting (.notYaml detail))
  | .error f => .error (.document f)
  | .ok (.scalar .null) => .ok []
  | .ok (.mapping entries) => .ok (lastValues entries)
  | .ok _ => .error (.setting .notMapping)

def ofFile (folder : Folder) (path : String) : Except Failure Settings :=
  match folder.read? path with
  | none => .error (.setting (.fileNotFound path))
  | some bytes =>
    if sizeLimit < bytes.size then .error (.setting .fileTooLarge)
    else do
      let entries ← entriesOf read bytes
      match ({ standard with file := some path } : Settings).apply entries with
      | (none, s) => return s
      | (some e, _) => .error e

def load (search : Search) (folder : Folder) : Except Failure Settings :=
  match search.path? folder with
  | none => .ok standard
  | some path => ofFile read folder path

end Montage.Settings
