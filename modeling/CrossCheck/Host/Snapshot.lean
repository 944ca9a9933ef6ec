import CrossCheck.Host.Machine
import CrossCheck.Json.Reader

/-!
# Snapshots of a machine

A snapshot is a JSON object with the files of a machine, its environment and the current directory:

    {"directory": "/case", "env": {"HOME": "/home"},
     "tree": [{"path": "a.E01", "content": "…"}, {"path": "run.sh", "content": "…", "exec": true},
              {"path": "sub", "kind": "dir"},
              {"path": "b.E01", "kind": "symlink", "target": "a.E01"}]}

A run on a snapshot needs nothing else, so that it can be repeated anywhere.
-/

namespace CrossCheck.Host

/-- A machine in which the program is started. -/
structure Snapshot where
  tree : Tree
  directory : List String
  /-- The environment. -/
  bindings : List (String × String)

/-- The user's directory of all configuration: the one in `XDG_CONFIG_HOME`, if that is an absolute
path, and otherwise `.config` in the home directory. -/
def configDirectory? (env : Environment) : Option OsString :=
  ((env "XDG_CONFIG_HOME").map OsString.ofText).filter Path.isAbsolute <|>
    ((env "HOME").filter fun home => !home.isEmpty).map fun home => Path.join home ".config"

namespace Snapshot

/-- The node that an item of a snapshot describes. -/
def node (j : Json) : Node :=
  match (j.field? "kind").bind Json.string? with
  | some "dir" => .directory
  | some "symlink" => .link (((j.field? "target").bind Json.string?).getD "")
  | _ =>
    let content := ((j.field? "content").bind Json.string?).getD ""
    .file (Text.Utf8.encode content.toList) (match j.field? "exec" with
      | some (.bool executable) => executable
      | _ => false)

/-- The snapshot that a JSON value describes. Items without a path are left out. -/
def ofJson (j : Json) : Snapshot :=
  let path := ((j.field? "directory").bind Json.string?).getD "/"
  let directory := (parts path).filter (· ≠ ".")
  let env := match j.field? "env" with
    | some (.object fields) => fields
    | _ => []
  let base := baseTree.put [] path .directory
  { directory
    bindings := env.filterMap fun v => v.2.string?.map fun value => (v.1, value)
    tree := (((j.field? "tree").map Json.items).getD []).foldl (fun t item =>
      match (item.field? "path").bind Json.string? with
      | some path => t.put directory path (node item)
      | none => t) base }

/-- The path of the current directory. -/
def path (s : Snapshot) : OsString :=
  .ofText ("/" ++ "/".intercalate s.directory)

/-- What a run sees of the machine. -/
def site (s : Snapshot) : Site where
  env := fun name => s.bindings.lookup name
  directory := .ok s.path
  configDirectory := configDirectory? fun name => s.bindings.lookup name
  read := s.tree.read s.directory
  look := s.tree.look s.directory

end Snapshot

/-- What the program leaves when it ends. -/
structure Printout where
  stdout : String := ""
  stderr : String := ""
  status : Nat
  deriving DecidableEq, Repr

/-- What the program prints if it does not run. -/
def Printout.ofUsage : Usage → Printout
  | .error => { stderr := "usage: everify [OPTIONS] PATH\n", status := 2 }
  | .help => { stdout := "usage: everify [OPTIONS] PATH\n", status := 0 }
  | .version => { stdout := "everify\n", status := 0 }

/-- What is said of a text that is no configuration. -/
def configurationFault (_ : String) : String :=
  "invalid configuration"

/-- What the program prints after a run. The error that ended it comes last, with its causes. -/
def Printout.ofTranscript (t : Transcript VerifierError) : Printout where
  stdout := t.stdout
  stderr := t.stderr ++ match t.ending with
    | .error e => Trace.tag ++ "error: " ++
        ": ".intercalate (e.messages configurationFault VerifierError.messages) ++ "\n"
    | .ok _ => ""
  status := t.exitStatus

/-- What the program leaves on a machine with the given arguments. -/
def Snapshot.printout (s : Snapshot) (arguments : List String) : Printout :=
  match Arguments.parse (arguments.map .ofText) with
  | .error u => .ofUsage u
  | .ok a => .ofTranscript ((run s.site (verify (start s.directory s.bindings)) a).run s.tree).1

end CrossCheck.Host
