import CrossCheck.Command
import CrossCheck.Extract

/-!
# Settings

Settings start from defaults, and each layer of configuration changes what it names. A layer that
gives a verifier a command also resets its name, so a name lasts from the layer that gives it up to
the next one that gives a command.
-/

namespace CrossCheck

/-- The two verifiers by the part they play. -/
inductive Role where
  | reference
  | candidate
  deriving DecidableEq, Repr

/-- The name of a role in messages. -/
def Role.name : Role → String
  | .reference => "reference"
  | .candidate => "candidate"

/-- The display name and the command line of a verifier. -/
structure VerifierSettings where
  name : String
  command : String
  deriving DecidableEq, Repr

/-- What a layer says about one verifier. -/
structure VerifierLayer where
  name : Option String := none
  command : Option String := none
  deriving DecidableEq, Repr

namespace VerifierSettings

/-- A verifier named after its program. -/
def ofCommand (line : String) : VerifierSettings where
  name := Command.displayName line
  command := .ofList (Text.trim line.toList)

/-- Changes what a layer names: the command first, then the name. -/
def apply (v : VerifierSettings) (layer : VerifierLayer) : VerifierSettings :=
  let v := match layer.command with
    | none => v
    | some line => ofCommand line
  { v with name := layer.name.getD v.name }

end VerifierSettings

/-- What a run is to do. -/
structure Settings where
  reference : VerifierSettings := .ofCommand "ewfverify -q"
  candidate : VerifierSettings := .ofCommand "e01verify"
  /-- The extensions of image files, without their dots. -/
  extensions : List String := ["e01"]
  extract : ExtractMode := .tokens
  deriving DecidableEq, Repr

/-- One layer of configuration: a configuration file, or the command line and the environment. -/
structure Layer where
  reference : VerifierLayer := {}
  candidate : VerifierLayer := {}
  extensions : Option (List String) := none
  extract : Option ExtractMode := none
  deriving DecidableEq, Repr

/-- An extension without white space around it and without dots before it. -/
def normalExtension (e : String) : String :=
  .ofList ((Text.trim e.toList).dropWhile (· = '.'))

/-- Extensions in their normal form. Those that are empty then are left out. -/
def normalExtensions (es : List String) : List String :=
  (es.map normalExtension).filter fun e => !e.isEmpty

/-- Why settings cannot be run. -/
inductive SettingsError where
  | emptyCommand (role : Role)
  | noExtensions
  deriving DecidableEq, Repr

/-- The wording of an error. -/
def SettingsError.message : SettingsError → String
  | .emptyCommand role => role.name ++ " verifier command is empty"
  | .noExtensions => "no image extensions configured"

namespace Settings

/-- The settings of a verifier. -/
def verifier (s : Settings) : Role → VerifierSettings
  | .reference => s.reference
  | .candidate => s.candidate

/-- Changes what a layer names. -/
def apply (s : Settings) (layer : Layer) : Settings where
  reference := s.reference.apply layer.reference
  candidate := s.candidate.apply layer.candidate
  extensions := (layer.extensions.map normalExtensions).getD s.extensions
  extract := layer.extract.getD s.extract

/-- The first fault of the settings: a verifier with a blank command line, or no
extension at all. -/
def fault? (s : Settings) : Option SettingsError :=
  if (Text.trim s.reference.command.toList).isEmpty then some (.emptyCommand .reference)
  else if (Text.trim s.candidate.command.toList).isEmpty then some (.emptyCommand .candidate)
  else if s.extensions.isEmpty then some .noExtensions
  else none

end Settings

end CrossCheck
