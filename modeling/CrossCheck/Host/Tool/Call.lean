import CrossCheck.Host.Octets
import CrossCheck.Host.Tree

/-!
# Calls of tools

What a tool of a host is given, and what it leaves: how much of its input it took, what it wrote,
and its status. A tool knows no other process and runs to its end at once.

* `Call.contents` : the file that an argument names
* `Effect.join` : two effects one after another
* `Options.read` : the options among the arguments
-/

namespace CrossCheck.Host

/-- Why an input cannot be read. -/
inductive InputFault where
  | closed
  | directory
  deriving DecidableEq, Repr

/-- The wording of a fault of an input. -/
def InputFault.message : InputFault → String
  | .closed => "Bad file descriptor"
  | .directory => "Is a directory"

/-- What a tool is given. Texts are strings of octets. -/
structure Call where
  /-- The name under which the tool was started. -/
  name : String
  arguments : List String
  input : Octets
  /-- Why the input cannot be read, if it cannot. -/
  inputFault : Option InputFault := none
  /-- The input is a pipe: what was read of it too early cannot be given back. -/
  inputIsPipe : Bool := false
  tree : Tree
  directory : List String

/-- What a tool leaves. -/
structure Effect where
  out : Octets := []
  err : Octets := []
  status : Nat := 0
  /-- How many octets of the input it has gone past. -/
  taken : Nat := 0
  /-- What it wrote to which stream, one after another, if its messages do not come first. -/
  order : Option (List (Nat × Octets)) := none
  tree : Tree

namespace Effect

/-- What was written to which stream, one after another. -/
def writings (e : Effect) : List (Nat × Octets) :=
  e.order.getD [(2, e.err), (1, e.out)]

/-- What two effects leave together. The tree is that of the second one, and a status other than 0
is kept. -/
def join (e f : Effect) : Effect where
  out := e.out ++ f.out
  err := e.err ++ f.err
  status := if f.status = 0 then e.status else f.status
  taken := e.taken + f.taken
  tree := f.tree

end Effect

namespace Call

/-- The call as a tool finds it after an effect. -/
def after (c : Call) (e : Effect) : Call :=
  { c with input := c.input.drop e.taken, tree := e.tree }

/-- A tool that has nothing to do. -/
def idle (c : Call) : Effect where
  tree := c.tree

/-- A tool that writes. -/
def writes (c : Call) (out : Octets) : Effect where
  out := out
  tree := c.tree

/-- A tool that complains and goes on; its status tells. -/
def complain (c : Call) (message : String) (status : Nat) : Effect where
  err := (c.name ++ ": " ++ message ++ "\n").toList
  status := status
  tree := c.tree

/-- A tool that refuses its arguments. -/
def misuse (c : Call) (message : String) (status : Nat) : Effect :=
  (c.complain message status).join
    { err := ("Try '" ++ c.name ++ " --help' for more information.\n").toList, status
      tree := c.tree }

/-- How much of the input is gone for a tool that reads it in large pieces and needs `n` octets of
it. -/
def gone (c : Call) (n : Nat) : Nat :=
  if c.inputIsPipe && 0 < n then c.input.length else n

/-- A file that a tool reads. -/
structure Source where
  content : Octets
  /-- It is the input of the call. -/
  isInput : Bool := false

/-- The file at a path; `-` is the input. -/
def contents (c : Call) (path : String) : Except String Source :=
  let input : Source := { content := c.input, isInput := true }
  if path = "-" then
    match c.inputFault with
    | some fault => .error fault.message
    | none => .ok input
  else
    match c.tree.findNode c.directory (textOf path) with
    | .error fault => .error fault.message
    | .ok (.file content _) => .ok { content := .ofBytes content }
    | .ok (.device true) => .ok { content := List.replicate 131072 '\x00' }
    | .ok (.stream 0) =>
      match c.inputFault with
      | some .closed => .error PathFault.notFound.message
      | some .directory => .error InputFault.directory.message
      | none => .ok input
    | .ok .directory => .error InputFault.directory.message
    | .ok _ => .ok { content := [] }

/-- Does something with each of several files in turn; without any the input is the only one. -/
def eachFile (c : Call) (step : Call → String → Effect) : List String → Effect
  | [] => c.idle
  | path :: paths =>
    let e := step c path
    e.join ((c.after e).eachFile step paths)

end Call

/-! ### Options -/

/-- Whether a value belongs to an option. -/
inductive OptionValue where
  | absent
  | needed
  /-- It may have a value in the same argument. -/
  | allowed
  deriving DecidableEq, Repr

/-- How an option is written. -/
structure OptionForm where
  letter : Char
  /-- Its long name, or nothing if it has none. -/
  name : String
  value : OptionValue

/-- An option that was given. -/
structure Given where
  letter : Char
  value : String := ""
  deriving DecidableEq, Repr

/-- The options and the other arguments of a call. -/
structure Options where
  given : List Given := []
  operands : List String := []

/-- Why arguments are not understood. -/
inductive OptionFault where
  | invalid (letter : Char)
  | unrecognized (text : String)
  | ambiguous (text : String) (possibilities : List String)
  | needsValue (letter : Char)
  | needsValueLong (name : String)
  | takesNone (name : String)
  deriving DecidableEq, Repr

/-- The wording of a fault. -/
def OptionFault.message : OptionFault → String
  | .invalid letter => "invalid option -- '" ++ .singleton letter ++ "'"
  | .unrecognized text => "unrecognized option '" ++ text ++ "'"
  | .ambiguous text names =>
    "option '" ++ text ++ "' is ambiguous; possibilities:" ++
      .join (names.map fun name => " '--" ++ name ++ "'")
  | .needsValue letter => "option requires an argument -- '" ++ .singleton letter ++ "'"
  | .needsValueLong name => "option '--" ++ name ++ "' requires an argument"
  | .takesNone name => "option '--" ++ name ++ "' doesn't allow an argument"

/-- Arguments that are not understood, and what stands before the fault. -/
structure Misuse where
  fault : OptionFault
  before : Options

namespace Options

/-- Adds an option. -/
def push (o : Options) (letter : Char) (value : String) : Options :=
  { o with given := o.given ++ [{ letter, value }] }

/-- The last value that was given for an option. -/
def value? (o : Options) (letter : Char) : Option String :=
  (o.given.reverse.find? fun g => g.letter = letter).map Given.value

/-- An option was given. -/
def has (o : Options) (letter : Char) : Bool :=
  o.given.any fun g => g.letter = letter

/-- The option of a long name, which may be cut short as long as it is clear. -/
def long? (forms : List OptionForm) (name : String) : Except OptionFault OptionForm :=
  match forms.find? fun f => f.name = name with
  | some f => .ok f
  | none =>
    match forms.filter fun f => !f.name.isEmpty && name.toList.isPrefixOf f.name.toList with
    | [f] => .ok f
    | [] => .error (.unrecognized ("--" ++ name))
    | fs => .error (.ambiguous ("--" ++ name) (fs.map OptionForm.name))

/-- Reads the letters of an argument such as `-ab`, given the argument after it. The result says
whether that one was taken as a value. -/
def letters (forms : List OptionForm) (o : Options) (following : Option String) :
    List Char → Except Misuse (Options × Bool)
  | [] => .ok (o, false)
  | letter :: more =>
    match forms.find? fun f => f.letter = letter with
    | none => .error ⟨.invalid letter, o⟩
    | some f =>
      if f.value = .absent then letters forms (o.push letter "") following more
      else if f.value = .allowed || !more.isEmpty then .ok (o.push letter (.ofList more), false)
      else
        match following with
        | some v => .ok (o.push letter v, true)
        | none => .error ⟨.needsValue letter, o⟩

/-- Reads arguments. Options and others may stand in any order, unless it is `strict`: then there
are no options after the first other argument. After `--` there are none in any case. The argument
after an option whose value it is is passed over with `skip`. -/
def readFrom (forms : List OptionForm) (strict : Bool) (o : Options) (skip : Bool) :
    List String → Except Misuse Options
  | [] => .ok o
  | a :: rest =>
    if skip then readFrom forms strict o false rest
    else
      match a.toList with
      | ['-', '-'] => .ok { o with operands := o.operands ++ rest }
      | '-' :: '-' :: name =>
        let (name, value) := (name.takeWhile (· ≠ '='), name.dropWhile (· ≠ '='))
        match long? forms (.ofList name) with
        | .error fault => .error ⟨fault, o⟩
        | .ok f =>
          if f.value = .absent && !value.isEmpty then .error ⟨.takesNone f.name, o⟩
          else if f.value ≠ .needed || !value.isEmpty then
            readFrom forms strict (o.push f.letter (.ofList value.tail)) false rest
          else
            match rest.head? with
            | some v => readFrom forms strict (o.push f.letter v) true rest
            | none => .error ⟨.needsValueLong f.name, o⟩
      | '-' :: c :: cs =>
        match letters forms o rest.head? (c :: cs) with
        | .error fault => .error fault
        | .ok (o, taken) => readFrom forms strict o taken rest
      | _ =>
        if strict then .ok { o with operands := o.operands ++ a :: rest }
        else readFrom forms strict { o with operands := o.operands ++ [a] } false rest

/-- The options and the other arguments of a list. -/
def read (forms : List OptionForm) (arguments : List String) : Except Misuse Options :=
  readFrom forms false {} false arguments

/-- The options in front of the other arguments of a list. -/
def readStrict (forms : List OptionForm) (arguments : List String) : Except Misuse Options :=
  readFrom forms true {} false arguments

end Options

end CrossCheck.Host
