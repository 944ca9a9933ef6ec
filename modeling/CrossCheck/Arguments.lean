import CrossCheck.Settings.Load

/-!
# The command line

The arguments of a run: one path, and options before, after or around it. An option is written
`--name` or with a letter, as in `-v`; letters may share a dash. The value of an option is the next
argument, or follows its name after `=` or its letter directly. After `--` there are no options.

Arguments are read from left to right, and the first one that is at fault, or that asks for help or
for the version, decides.
-/

namespace CrossCheck

/-- What a command line asks for. -/
structure Arguments where
  path : OsString
  verbose : Bool := false
  json : Bool := false
  exitZero : Bool := false
  reference : Option String := none
  candidate : Option String := none
  extensions : List String := []
  extract : Option ExtractMode := none
  deriving DecidableEq, Repr

/-- Why a command line starts no run. -/
inductive Usage where
  | error
  | help
  | version
  deriving DecidableEq, Repr

/-- An option that takes a value. -/
inductive Setting where
  | verifier (role : Role)
  | extension
  | extract
  deriving DecidableEq, Repr

/-- What an option's name or letter means. -/
inductive Flag where
  | verbose
  | json
  | exitZero
  | setting (s : Setting)
  | usage (u : Usage)
  deriving DecidableEq, Repr

namespace Flag

/-- The option of a name. Names are not abbreviated. -/
def ofName? (name : String) : Option Flag :=
  [("verbose", verbose), ("json", json), ("exit-zero", exitZero),
    ("reference", setting (.verifier .reference)), ("candidate", setting (.verifier .candidate)),
    ("extension", setting .extension), ("extract", setting .extract),
    ("help", usage .help), ("version", usage .version)].lookup name

/-- The option of a letter. -/
def ofLetter? (letter : Char) : Option Flag :=
  [('v', verbose), ('e', setting .extension), ('h', usage .help), ('V', usage .version)].lookup
    letter

end Flag

namespace Arguments

/-- What was read so far: as in `Arguments`, but the path may still be missing, and an option may
wait for its value. -/
structure Reading where
  path : Option OsString := none
  verbose : Bool := false
  json : Bool := false
  exitZero : Bool := false
  reference : Option String := none
  candidate : Option String := none
  extensions : List String := []
  extract : Option ExtractMode := none
  waiting : Option Setting := none
  deriving DecidableEq, Repr

namespace Reading

/-- The byte of a dash. -/
def dash : UInt8 := 45

/-- Fails with a usage error unless a condition holds. -/
def need (condition : Bool) : Except Usage Unit :=
  if condition then .ok () else .error .error

/-- Takes the value of an option. Only extensions may be given more than once. -/
def set (r : Reading) (s : Setting) (value : String) : Except Usage Reading := do
  let r := { r with waiting := none }
  match s with
  | .verifier .reference =>
    need r.reference.isNone
    return { r with reference := value }
  | .verifier .candidate =>
    need r.candidate.isNone
    return { r with candidate := value }
  | .extension => return { r with extensions := r.extensions ++ [value] }
  | .extract =>
    need (r.extract.isNone && (ExtractMode.ofName? value).isSome)
    return { r with extract := ExtractMode.ofName? value }

/-- Takes an option without a value. None may be given more than once. -/
def switch (r : Reading) : Flag → Except Usage Reading
  | .verbose => do
    need !r.verbose
    return { r with verbose := true }
  | .json => do
    need !r.json
    return { r with json := true }
  | .exitZero => do
    need !r.exitZero
    return { r with exitZero := true }
  | .setting s => return { r with waiting := some s }
  | .usage u => .error u

/-- Takes an option by its name, with the value after `=` if there is one. -/
def name (r : Reading) (text : List Char) : Except Usage Reading :=
  match Flag.ofName? (.ofList (text.takeWhile (· ≠ '='))), text.dropWhile (· ≠ '=') with
  | some (.setting s), _ :: value => r.set s (.ofList value)
  | some flag, [] => r.switch flag
  | _, _ => .error .error

/-- Takes options by their letters. What follows the letter of an option with a value is that
value. -/
def letters (r : Reading) : List Char → Except Usage Reading
  | [] => .ok r
  | c :: cs =>
    match Flag.ofLetter? c, cs with
    | some (.setting s), '=' :: value => r.set s (.ofList value)
    | some (.setting s), d :: value => r.set s (.ofList (d :: value))
    | some flag, cs => do
      let r ← r.switch flag
      r.letters cs
    | none, _ => .error .error

/-- Takes the path. It must not be empty, and there is only one. -/
def place (r : Reading) (path : OsString) : Except Usage Reading := do
  need (r.path.isNone && !path.bytes.isEmpty)
  return { r with path := path }

/-- Takes an argument that is text, before `--`. -/
def word (r : Reading) (a : String) : Except Usage Reading :=
  match r.waiting, a.toList with
  | none, '-' :: '-' :: text => r.name text
  | none, '-' :: c :: cs => r.letters (c :: cs)
  | none, _ => r.place a
  | some _, '-' :: _ :: _ => .error .error
  | some s, _ => r.set s a

/-- Takes an argument before `--`. What is no text can be the path, but neither an option nor the
value of one. -/
def argument (r : Reading) (a : OsString) : Except Usage Reading :=
  match a.text?, r.waiting with
  | some text, _ => r.word text
  | none, some _ => .error .error
  | none, none =>
    if a.bytes.head? = some dash then do
      -- the letters before what is no text may ask for help
      let _ ← r.word a.display
      .error .error
    else r.place a

/-- Takes all arguments. -/
def arguments (r : Reading) : List OsString → Except Usage Reading
  | [] => .ok r
  | a :: rest =>
    if a = .ofText "--" then rest.foldlM place r
    else do
      let r ← r.argument a
      r.arguments rest

/-- Ends the reading: no option may wait for its value, and the path must be there. -/
def finish (r : Reading) : Except Usage Arguments :=
  match r.waiting, r.path with
  | none, some path => .ok { r with path := path }
  | _, _ => .error .error

end Reading

/-- Reads a command line, which does not include the name of the program. -/
def parse (arguments : List OsString) : Except Usage Arguments := do
  let r ← Reading.arguments {} arguments
  r.finish

/-- The layer of settings that the command line and the environment make. An option goes before the
variable of the same meaning, and a variable counts even if it is empty. -/
def layer (a : Arguments) (env : Environment) : Layer where
  reference := { command := a.reference <|> env "EVERIFY_REFERENCE" }
  candidate := { command := a.candidate <|> env "EVERIFY_CANDIDATE" }
  extensions := if a.extensions.isEmpty then none else some a.extensions
  extract := a.extract

end Arguments

end CrossCheck
