import CrossCheck.Text.Utf8

/-!
# Names and paths as the system has them

The names of files are bytes, and need not be text. Where one is shown, what is no text in it is
replaced.
-/

namespace CrossCheck

/-- A name or a path as the system has it. -/
structure OsString where
  bytes : List UInt8
  deriving DecidableEq, Repr

namespace OsString

/-- Names are in the order of their bytes. -/
instance : LE OsString := ⟨fun a b => a.bytes ≤ b.bytes⟩

instance (a b : OsString) : Decidable (a ≤ b) := inferInstanceAs (Decidable (a.bytes ≤ b.bytes))

/-- A text as a name. -/
def ofText (s : String) : OsString where
  bytes := Text.Utf8.encode s.toList

instance : Coe String OsString := ⟨ofText⟩

/-- The text of a name, if it is one. -/
def text? (s : OsString) : Option String :=
  (Text.Utf8.decode? s.bytes).map .ofList

/-- What is shown of a name. -/
def display (s : OsString) : String :=
  .ofList (Text.Utf8.decode s.bytes)

end OsString

end CrossCheck
