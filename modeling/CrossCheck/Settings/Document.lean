import CrossCheck.Settings
import CrossCheck.Toml.Document

/-!
# Configuration documents

A configuration file is a TOML document with at most four entries: `reference`, `candidate`,
`extensions` and `extract`. Nothing in it is passed over: an entry of another name or of the wrong
shape makes the whole document no configuration.

A verifier is a table of strings `name` and `command`, or an array that starts with the two strings.
The extraction mode is its name, or a table with one entry of that name, which holds nothing.
-/

namespace CrossCheck

open Toml

/-- The extraction mode of a name. -/
def ExtractMode.ofName? (name : String) : Option ExtractMode :=
  if name = "tokens" then some .tokens
  else if name = "labelled" then some .labelled
  else none

namespace Layer

/-- A string. -/
def text? : Value → Option String
  | .text s => some s
  | _ => none

/-- An array of strings. -/
def texts? : Value → Option (List String)
  | .array _ items => items.mapM text?
  | _ => none

/-- A table or an array without anything in it. -/
def holdsNothing : Value → Bool
  | .table _ entries => entries.isEmpty
  | .array _ items => items.isEmpty
  | _ => false

/-- An extraction mode. -/
def mode? : Value → Option ExtractMode
  | .text name => ExtractMode.ofName? name
  | .table _ [(name, v)] => if holdsNothing v then ExtractMode.ofName? name else none
  | _ => none

/-- Adds an entry of a verifier's table to what the layer says about the verifier. -/
def addToVerifier? (layer : VerifierLayer) (entry : String × Value) : Option VerifierLayer :=
  if entry.1 = "name" then (text? entry.2).map fun s => { layer with name := s }
  else if entry.1 = "command" then (text? entry.2).map fun s => { layer with command := s }
  else none

/-- A verifier. -/
def verifier? : Value → Option VerifierLayer
  | .table _ entries => entries.foldlM addToVerifier? {}
  | .array _ (.text name :: .text command :: _) => some { name, command }
  | _ => none

/-- Adds an entry of a document to a layer. -/
def add? (layer : Layer) (entry : String × Value) : Option Layer :=
  if entry.1 = "reference" then (verifier? entry.2).map fun v => { layer with reference := v }
  else if entry.1 = "candidate" then (verifier? entry.2).map fun v => { layer with candidate := v }
  else if entry.1 = "extensions" then (texts? entry.2).map fun es => { layer with extensions := es }
  else if entry.1 = "extract" then (mode? entry.2).map fun m => { layer with extract := m }
  else none

/-- The layer that the entries of a document make. -/
def ofEntries? (es : Entries) : Option Layer :=
  es.foldlM add? {}

/-- The layer of a document's text. -/
def ofText? (text : String) : Option Layer :=
  (Document.parse? text).bind ofEntries?

end Layer

end CrossCheck
