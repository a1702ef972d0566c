import StationLink.Json.Settings
import StationLink.Text.Utf8

namespace StationLink

/-!
# Where settings are found

The settings of a gateway are read from a file that is named, or else from the
standard one if it exists, or else the standard settings are taken. The
standard file lies in the directory for settings of the user.
-/

/-- What is found under a path. -/
inductive PathContent where
  | missing
  | directory
  | file (bytes : List UInt8)
  deriving Repr, DecidableEq

/-- Why the settings could not be loaded. -/
inductive LoadError where
  /-- The file could not be read as text. -/
  | reading (path : String)
  /-- The text does not give settings. -/
  | parsing (path : String) (error : Json.ReadError)
  deriving Repr, DecidableEq

/-- The wording of a load error. -/
def LoadError.text : LoadError → String
  | .reading path => s!"reading configuration {path}"
  | .parsing path _ => s!"parsing configuration {path}"

namespace Location

/-- Put a name behind a path with exactly one separator, unless the path ends with more. -/
def join (path name : String) : String :=
  if path.toList.getLast? = some '/' then path ++ name else path ++ "/" ++ name

/-- Whether a path begins at the root. -/
def isAbsolute (path : String) : Bool :=
  path.toList.head? == some '/'

/--
The standard file: in the directory for settings if one is given as an absolute
path, otherwise below the home directory.
-/
def standardPath (home : String) (configHome? : Option String) : String :=
  let directory :=
    match configHome?.filter isAbsolute with
    | some configHome => configHome
    | none => join home ".config"
  join (join directory "dcp-gateway") "config.json"

/-- Read the settings in a file. -/
def read (look : String → PathContent) (path : String) : Except LoadError GatewaySettings :=
  match look path with
  | .missing => .error (.reading path)
  | .directory => .error (.reading path)
  | .file bytes =>
      match Text.ofUtf8? bytes with
      | none => .error (.reading path)
      | some text =>
          match Json.readGateway text with
          | .ok settings => .ok settings
          | .error error => .error (.parsing path error)

/-- Load settings from the file named, or else from the standard file if there is one. -/
def load
    (look : String → PathContent)
    (standardPath : String)
    (path? : Option String) :
    Except LoadError GatewaySettings :=
  match path? with
  | some path => read look path
  | none =>
      if look standardPath = .missing then
        .ok .standard
      else
        read look standardPath

end Location

/-- Files by the names that lead to them from a root. -/
structure FileTree where
  files : List (List String × List UInt8) := []
  deriving Repr, DecidableEq

namespace FileTree

/-- What is found under the names that lead to it. -/
def content (tree : FileTree) (names : List String) : PathContent :=
  match tree.files.lookup names with
  | some bytes => .file bytes
  | none =>
      if tree.files.any fun file => names.isPrefixOf file.1 && names.length < file.1.length then
        .directory
      else
        .missing

/-- Follow names from a directory, given by the names that lead to it, last first. -/
def follow (tree : FileTree) (trail : List String) : List String → PathContent
  | [] => tree.content trail.reverse
  | name :: rest =>
      if tree.content trail.reverse = .directory then
        if name = "" ∨ name = "." then
          tree.follow trail rest
        else if name = ".." then
          tree.follow (trail.drop 1) rest
        else
          tree.follow (name :: trail) rest
      else
        .missing

/-- What is found under an absolute path. -/
def look (tree : FileTree) (path : String) : PathContent :=
  if Location.isAbsolute path then tree.follow [] (path.splitOn "/") else .missing

end FileTree

end StationLink
