import CrossCheck.Settings.Document

/-!
# Loading settings

Settings come from two files, each of which may be absent: one of the user and one of the project,
which is applied last. The user's file is looked for in a directory that the environment names, or
in one that the system has for all configuration.
-/

namespace CrossCheck

/-- The values of environment variables, which are text. -/
abbrev Environment := String → Option String

/-- What reading a file gives. -/
inductive FileText where
  | absent
  /-- There is something, but its text cannot be read, for the reason that the system gives. -/
  | unreadable (cause : String)
  | text (s : String)
  deriving DecidableEq, Repr

/-- Why settings cannot be loaded. -/
inductive LoadError where
  | unreadable (path : OsString) (cause : String)
  /-- The text of the file is no configuration. -/
  | malformed (path : OsString) (text : String)
  deriving DecidableEq, Repr

/-- The wordings of an error and of its cause; `fault` says what is wrong with a text. -/
def LoadError.messages (fault : String → String) : LoadError → List String
  | .unreadable path cause => ["failed to read config file: " ++ path.display, cause]
  | .malformed path text => ["failed to parse config file: " ++ path.display, fault text]

/-- The layer of a configuration file. A file that does not exist says nothing. -/
def Layer.ofFile (read : OsString → FileText) (path : OsString) : Except LoadError Layer :=
  match read path with
  | .absent => .ok {}
  | .unreadable cause => .error (.unreadable path cause)
  | .text s =>
    match Layer.ofText? s with
    | none => .error (.malformed path s)
    | some layer => .ok layer

namespace Settings

/-- The variable that names the user's directory of configuration files. -/
def directoryVariable : String := "EVERIFY_HOME"

/-- The user's directory of configuration files: the one that a variable of its own names, if it
names any, and otherwise a fixed place in the directory of all configuration. -/
def userDirectory? (env : Environment) (common : Option OsString) : Option OsString :=
  ((env directoryVariable).filter fun directory => !directory.isEmpty).map OsString.ofText <|>
    common.map (Path.join · "everify")

/-- The name of configuration files. -/
def fileName : String := "config.toml"

/-- The user's configuration file. -/
def userFile? (env : Environment) (common : Option OsString) : Option OsString :=
  (userDirectory? env common).map (Path.join · fileName)

/-- The configuration file of the project in a directory. -/
def projectFile (directory : OsString) : OsString :=
  Path.join (Path.join directory ".everify") fileName

/-- The defaults as two files change them, each of which may not be looked for at all. The first
fault found ends it. -/
def ofFiles (read : OsString → FileText) (user project : Option OsString) :
    Except LoadError Settings := do
  let layers ← (user.toList ++ project.toList).mapM (Layer.ofFile read)
  return layers.foldl apply {}

/-- The settings for a run in a directory. -/
def load (read : OsString → FileText) (env : Environment) (common : Option OsString)
    (directory : OsString) : Except LoadError Settings :=
  ofFiles read (userFile? env common) (some (projectFile directory))

end Settings

end CrossCheck
