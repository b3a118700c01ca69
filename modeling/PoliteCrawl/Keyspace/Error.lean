import PoliteCrawl.Number.Decimal

namespace PoliteCrawl

inductive KeyspaceError where
  | invalidHash (text : String)
  | invalidRange (min max : String)
  | noWeights
  | invalidWeight (weight : Binary64)
  /-- The weights do not make up the whole; what they add up to. -/
  | weightsDoNotSumToOne (sum : Binary64)
  /-- A part of a split into so many would be empty. -/
  | rangeTooNarrow (parts : Nat)
  deriving DecidableEq

def KeyspaceError.message : KeyspaceError → String
  | invalidHash text => s!"Invalid hash '{text}': expected 32 hex characters"
  | invalidRange min max => s!"Invalid range: min {min} is greater than max {max}"
  | noWeights => "At least one weight is required"
  | invalidWeight w => s!"Invalid weight {Decimal.plain w}: weights must be positive numbers"
  | weightsDoNotSumToOne s => s!"Weights must add up to 1.0, got {Decimal.plain s}"
  | rangeTooNarrow n => s!"Range is too narrow to split into {n} parts"

end PoliteCrawl
