import CrossCheck.Extract.Label
import CrossCheck.Extract.Token

/-!
# Finding hashes in a report

A verifier's report is free text. Its hashes are found in one of two ways: by position among the
hash tokens of the text, or by the label lines of the text.
-/

namespace CrossCheck

/-- How hashes are found in a verifier's report. -/
inductive ExtractMode where
  /-- By position: the first hash token of an algorithm's length is the stored hash, the second the
  computed one. -/
  | tokens
  /-- By label lines. -/
  | labelled
  deriving DecidableEq, Repr

namespace Extract

/-- The first two hash tokens of the algorithm's length. -/
def tokenPair (a : Algorithm) (text : List Char) : HashPair :=
  .ofList ((hexTokens a.digits text).map String.ofList)

/-- The hashes of a text by position. -/
def byTokens (text : List Char) : Hashes where
  md5 := tokenPair .md5 text
  sha1 := if (hexTokens Algorithm.sha1.digits text).isEmpty then none
    else some (tokenPair .sha1 text)

/-- The value of the first label line about the given hash. -/
def firstValue (ls : List Label) (a : Algorithm) (k : HashKind) : Option String :=
  (ls.find? fun l => l.algorithm = a && l.slot = k).map fun l => .ofList l.normalValue

/-- The first values of both kinds. -/
def labelPair (ls : List Label) (a : Algorithm) : HashPair where
  stored := firstValue ls a .stored
  computed := firstValue ls a .computed

/-- The hashes that label lines give. -/
def ofLabels (ls : List Label) : Hashes where
  md5 := labelPair ls .md5
  sha1 := if ls.any fun l => l.algorithm = .sha1 then some (labelPair ls .sha1) else none

/-- The hashes of a text by its label lines. -/
def byLabels (text : List Char) : Hashes :=
  ofLabels (labels text)

end Extract

/-- The hashes found in a report. -/
def ExtractMode.extract (mode : ExtractMode) (report : String) : Hashes :=
  match mode with
  | .tokens => Extract.byTokens report.toList
  | .labelled => Extract.byLabels report.toList

end CrossCheck
