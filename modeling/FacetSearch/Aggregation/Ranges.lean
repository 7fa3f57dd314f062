import FacetSearch.Aggregation.Properties
import FacetSearch.Decimal.Scan
import FacetSearch.Error

/-!
# Ranges of numbers

The text of the ranges of an aggregation is a list of tokens `from:to` between commas, either side
being a number or a star for an open side. Blank tokens and ranges open on both sides are skipped.
The key of an interval is its token.
-/

namespace FacetSearch.Ranges

/-- The star that stands for an open side. -/
def openSide : String := "*"

/-- A bound, which is absent on an open side. -/
def readBound (field token bound : String) : Except PropertyFault (Option Binary64) :=
  if bound = openSide then .ok none
  else match Decimal.read? bound.toList with
    | some x => .ok (some x)
    | none => .error (.boundNotNumeric token field bound)

/-- The interval of a token, which is `none` when both sides are open. -/
def readToken (field token : String) : Except PropertyFault (Option RangeInterval) := do
  match Text.trimmedPieces ':' token with
  | [lower, upper] =>
    let lower ← readBound field token lower
    let upper ← readBound field token upper
    if lower.isNone && upper.isNone then return none
    else return some ⟨some token, lower, upper⟩
  | _ => throw (.rangeMalformed token field)

/-- The intervals of the tokens that are not blank. -/
def readTokens (field : String) : List String → Except PropertyFault (List RangeInterval)
  | [] => .ok []
  | token :: rest => do
    if token.isEmpty then readTokens field rest
    else
      let interval? ← readToken field token
      let intervals ← readTokens field rest
      return interval?.toList ++ intervals

/-- The intervals of a text. -/
def read (field text : String) : Except PropertyFault (List RangeInterval) :=
  readTokens field (Text.trimmedPieces ',' text)

end FacetSearch.Ranges
