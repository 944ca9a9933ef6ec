/-!
# TOML values

A document is one table. Tables come into being in several ways, and how one did decides what may
still be added to it: a table in braces is closed, one with a header of its own gets no second
header, and one that dotted keys made grows by dotted keys only.

The three operations on the entries of a table are the three statements of a document: `insert` for
`a.b = v`, `openTable` for `[a.b]` and `openElement` for `[[a.b]]`.
-/

namespace CrossCheck.Toml

/-- How a table came into being. -/
inductive Origin where
  /-- Written in braces, or an element of an array in brackets. -/
  | inline
  /-- It has a header of its own. -/
  | header
  /-- A longer header passes through it. -/
  | implied
  /-- A dotted key passes through it. -/
  | dotted
  deriving DecidableEq, Repr

/-- A value of a document. Numbers and times are kept as they are written. -/
inductive Value where
  | text (s : String)
  | boolean (b : Bool)
  | number (written : List Char)
  | time (written : List Char)
  /-- An array; `grown` if its elements are tables with headers in double brackets. -/
  | array (grown : Bool) (items : List Value)
  | table (origin : Origin) (entries : List (String × Value))
  deriving Repr

/-- The entries of a table in the order in which they were made. -/
abbrev Entries := List (String × Value)

namespace Entries

/-- The entries with the value of `key` replaced. -/
def replace (key : String) (v : Value) (es : Entries) : Entries :=
  es.map fun e => if e.1 = key then (key, v) else e

/-- Changes the table at the end of `path`, which starts at a table with entries `es`. Missing
tables are made on the way, `dotted` saying whether a dotted key or a header passes; a grown array
is entered by its last element. A closed table is not entered at all, and one with a header of its
own not by a dotted key. -/
def reach (dotted : Bool) (change : Origin → Entries → Option Entries) :
    List String → Origin → Entries → Option Entries
  | [], origin, es => change origin es
  | key :: path, _, es =>
    match es.lookup key with
    | none => do
      let origin := if dotted then .dotted else .implied
      let inner ← reach dotted change path origin []
      return es ++ [(key, .table origin inner)]
    | some (.table origin inner) => do
      guard (origin ≠ .inline && !(dotted && origin = .header))
      let inner ← reach dotted change path origin inner
      return es.replace key (.table origin inner)
    | some (.array true items) =>
      match items.getLast? with
      | some (.table origin inner) => do
        let inner ← reach dotted change path origin inner
        return es.replace key (.array true (items.dropLast ++ [.table origin inner]))
      | _ => none
    | some _ => none

/-- Changes the table that holds the last key of a path, given that key. -/
def reachLast (dotted : Bool) (path : List String) (origin : Origin) (es : Entries)
    (change : String → Origin → Entries → Option Entries) : Option Entries := do
  let key ← path.getLast?
  reach dotted (change key) path.dropLast origin es

/-- Adds a value under a key that may be dotted. The key must be new, and the tables that a dotted
key passes through must be made by dotted keys. -/
def insert (path : List String) (v : Value) (origin : Origin) (es : Entries) : Option Entries :=
  reachLast true path origin es fun key parent es => do
    guard (path.length = 1 || parent = .dotted)
    guard (es.lookup key).isNone
    return es ++ [(key, v)]

/-- Opens the table of a header. It must be new, or implied so far by longer headers. -/
def openTable (path : List String) (es : Entries) : Option Entries :=
  reachLast false path .header es fun key _ es =>
    match es.lookup key with
    | none => some (es ++ [(key, .table .header [])])
    | some (.table .implied inner) => some (es.replace key (.table .header inner))
    | some _ => none

/-- Opens a further element of a grown array. The array must be new or grown. -/
def openElement (path : List String) (es : Entries) : Option Entries :=
  reachLast false path .header es fun key _ es =>
    match es.lookup key with
    | none => some (es ++ [(key, .array true [.table .header []])])
    | some (.array true items) =>
      some (es.replace key (.array true (items ++ [.table .header []])))
    | some _ => none

end Entries

end CrossCheck.Toml
