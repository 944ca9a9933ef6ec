/-!
# Hashes

What a verifier says about an image: for each hash algorithm the value stored in the image file when
it was acquired, and the value computed over the image data.
-/

namespace CrossCheck

/-- The hash algorithms a verifier may report. -/
inductive Algorithm where
  | md5
  | sha1
  deriving DecidableEq, Repr

/-- The number of hexadecimal digits in a hash. -/
def Algorithm.digits : Algorithm → Nat
  | .md5 => 32
  | .sha1 => 40

/-- Which of the two hashes of an algorithm is meant. -/
inductive HashKind where
  /-- The hash recorded in the image file. -/
  | stored
  /-- The hash recalculated over the image data. -/
  | computed
  deriving DecidableEq, Repr

/-- The two hashes of one algorithm, each absent if it was not reported. -/
structure HashPair where
  stored : Option String := none
  computed : Option String := none
  deriving DecidableEq, Repr

namespace HashPair

/-- The hash of the given kind. -/
def get (p : HashPair) : HashKind → Option String
  | .stored => p.stored
  | .computed => p.computed

/-- Values in order of appearance: the first is the stored hash, the second the computed one, and
further values count for nothing. -/
def ofList (values : List String) : HashPair where
  stored := values[0]?
  computed := values[1]?

end HashPair

/-- All hashes found in one report. Without any SHA1 value `sha1` is `none`, which is not the same
as a pair of two absent values. -/
structure Hashes where
  md5 : HashPair := {}
  sha1 : Option HashPair := none
  deriving DecidableEq, Repr

/-- What one verifier found out about one image. -/
structure Finding where
  exitCode : Int
  hashes : Hashes
  deriving DecidableEq, Repr

end CrossCheck
