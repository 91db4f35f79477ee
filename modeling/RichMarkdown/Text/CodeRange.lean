/-! Tables over code points: sets as sorted ranges, and character maps as runs. -/
namespace RichMarkdown.Text

/-- A set of code points, given by its ranges (both ends included) in ascending order. -/
abbrev CodeRanges := List (Nat × Nat)

def CodeRanges.contains (ranges : CodeRanges) (n : Nat) : Bool :=
  ranges.any fun r => r.1 ≤ n && n ≤ r.2

/-- The code points `first`, `first + step`, … up to `last`, which are mapped in order to
`image`, `image + step`, …. -/
structure CaseRun where
  first : Nat
  last : Nat
  step : Nat
  image : Nat

def CaseRun.map? (r : CaseRun) (n : Nat) : Option Nat :=
  if r.first ≤ n && n ≤ r.last && (n - r.first) % r.step == 0 then
    some (r.image + (n - r.first))
  else none

def mapRuns? (runs : List CaseRun) (n : Nat) : Option Nat :=
  runs.findSome? (·.map? n)

end RichMarkdown.Text
